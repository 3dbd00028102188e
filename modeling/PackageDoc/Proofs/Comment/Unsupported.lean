import PackageDoc.Proofs.Comment.Run

/-!
# Where rendering stops

Writing a tree fails at the first node without a rule that is not below a dropped one, and at
nothing else: neither the options nor what was written before matter.

    (visit o n w).failure = n.unsupported?                                   (failure_visit)
    if n.unsupported? = none, so do the children that are visited            (unsupported?_of_mem)
-/

namespace PackageDoc

mutual

/-- The kind of the first node without a rule that a visit comes upon. -/
def Node.unsupported? : Node → Option String
  | .leaf kind _ =>
    match kind with
    | .custom name => some name
    | _ => none
  | .table .. => none
  | .container kind children _ =>
    if kind.isDropped then none
    else if kind = .strikethrough then some kind.name
    else unsupportedAmong? children
termination_by structural n => n

/-- The first such kind in a list of nodes. -/
def unsupportedAmong? : List Node → Option String
  | [] => none
  | n :: ns => n.unsupported?.or (unsupportedAmong? ns)
termination_by structural ns => ns

end

theorem unsupportedAmong?_eq_none {ns : List Node} :
    unsupportedAmong? ns = none ↔ ∀ n ∈ ns, n.unsupported? = none := by
  induction ns with
  | nil => simp [unsupportedAmong?]
  | cons n ns ih => simp [unsupportedAmong?, ih]

theorem Node.unsupported?_of_mem {kind : Container} {ns : List Node} {info : Info}
    (h : (Node.container kind ns info).unsupported? = none) (hd : kind.isDropped = false) :
    ∀ n ∈ ns, n.unsupported? = none := by
  rw [unsupported?, hd] at h
  split at h
  · contradiction
  · split at h
    · contradiction
    · exact unsupportedAmong?_eq_none.1 h

namespace Comment

variable {e : Option String} {content : Writer → Step}

theorem failure_visitMarked (hc : ∀ w, (content w).failure = e) (marker : List Char) (w : Writer) :
    (visitMarked marker content w).failure = e := by
  simp [visitMarked, Step.failure_andThen, hc]

theorem failure_visitHeading (hc : ∀ w, (content w).failure = e) (w : Writer) :
    (visitHeading content w).failure = e := by
  unfold visitHeading
  rw [Step.failure_andThen, Step.failure_pure, Option.or_none]
  split
  · rw [Step.failure_adjust, hc]
  · rw [hc]

theorem failure_visitLinkText (hc : ∀ w, (content w).failure = e) (title : Option String)
    (w : Writer) : (visitLinkText title content w).failure = e := by
  unfold visitLinkText
  split
  · exact hc w
  · split
    · exact hc w
    · rw [Step.failure_andThen, Step.failure_wrote, Option.none_or, hc]

theorem failure_visitLink (hc : ∀ w, (content w).failure = e) (o : Options) (url : String)
    (title : Option String) (w : Writer) : (visitLink o url title content w).failure = e := by
  have hbody : (linkBody title content w).failure = e := by
    rw [linkBody, Step.failure_adjust, failure_visitLinkText hc]
  cases e with
  | some kind => rw [visitLink_of_failure hbody, hbody]
  | none =>
    cases hb : (linkBody title content w).writer.sawImage && o.suppressBadges with
    | true => rw [visitLink_of_badge hbody hb]
    | false =>
      rw [visitLink_of_shown hbody hb, Step.failure_adjust]
      split
      · exact hbody
      · rw [Step.failure_andThen, hbody, Step.failure_wrote, Option.none_or]

theorem failure_visitEach {o : Options} {ns : List Node}
    (h : ∀ n ∈ ns, ∀ w, (visit o n w).failure = n.unsupported?) (before : Writer → Writer)
    (w : Writer) : (visitEach o before ns w).failure = unsupportedAmong? ns := by
  induction ns generalizing w with
  | nil => rfl
  | cons n ns ih =>
    rw [visitEach_cons, Step.failure_andThen, h n List.mem_cons_self,
      ih fun m hm => h m (List.mem_cons_of_mem _ hm), unsupportedAmong?]

theorem failure_visitItems {o : Options} {ns : List Node}
    (h : ∀ n ∈ ns, ∀ w, (visit o n w).failure = n.unsupported?) (w : Writer) :
    (visitItems o ns w).failure = unsupportedAmong? ns := by
  cases ns with
  | nil => rfl
  | cons n ns =>
    rw [visitItems, Step.failure_andThen, h n List.mem_cons_self,
      failure_visitEach (fun m hm => h m (List.mem_cons_of_mem _ hm)), unsupportedAmong?]

theorem visit_of_isDropped {kind : Container} (h : kind.isDropped = true) (o : Options)
    (ns : List Node) (info : Info) : visit o (.container kind ns info) = Step.drop kind.name := by
  cases kind with
  | blockQuote => rfl
  | tableRow => rfl
  | tableCell => rfl
  | footnoteDefinition => rfl
  | _ => simp [Container.isDropped] at h

/-- Writing a tree fails exactly with the first node that has no rule. -/
theorem failure_visit (o : Options) (n : Node) (w : Writer) :
    (visit o n w).failure = n.unsupported? := by
  induction n generalizing w with
  | leaf kind => cases kind <;> rfl
  | table => rfl
  | container kind ns info ih =>
    have hall := failure_visitEach ih id
    cases kind with
    | document =>
      rw [visit, Step.failure_andThen, hall]
      split <;> simp [Node.unsupported?, Container.isDropped]
    | heading => exact failure_visitHeading hall w
    | paragraph =>
      rw [visit, Step.failure_andThen, hall, Step.failure_pure, Option.or_none]
      rfl
    | list =>
      rw [visit, Step.failure_andThen, failure_visitItems ih, Step.failure_pure, Option.or_none]
      rfl
    | listItem =>
      rw [visit, Step.failure_andThen, Step.failure_andThen, Step.failure_wrote, hall,
        Step.failure_pure, Option.none_or, Option.or_none]
      rfl
    | emphasis => exact failure_visitMarked hall _ w
    | strong => exact failure_visitMarked hall _ w
    | link => exact failure_visitLink hall o _ _ w
    | strikethrough => rfl
    | blockQuote => rfl
    | tableRow => rfl
    | tableCell => rfl
    | footnoteDefinition => rfl

end Comment

end PackageDoc
