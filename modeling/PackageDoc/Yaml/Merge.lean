import PackageDoc.Yaml.Node

/-!
# Merge keys of YAML

A merge key stands for the fields of the mapping that is its value, or of the mappings in a list of
them. They come before the own fields of the mapping that has the key, those of a later mapping in
the list first. The mappings that are merged are freed of their merge keys in turn. As all of this
happens to nodes that may be shared, it is done to the graph.

    flatten n id g    the graph g after the node id was freed of its merge keys
-/

namespace PackageDoc.Yaml

/-- The fields of a mapping. -/
def Node.fields? (n : Node) : Option (List (Nat × Nat)) :=
  match n.content with
  | .mapping fields => some fields
  | _ => none

namespace Graph

/-- Whether a node has a tag. -/
def hasTag (g : Graph) (tag : Tag) (id : Nat) : Bool :=
  (g[id]?.map Node.tag) == some tag

/-- The fields of a node that is a mapping. -/
def fields? (g : Graph) (id : Nat) : Option (List (Nat × Nat)) :=
  g[id]?.bind Node.fields?

/-- Whether a field is to be merged. -/
def isMerge (g : Graph) (field : Nat × Nat) : Bool :=
  g.hasTag .merge field.1

/-- The fields of all mappings. -/
def allFields (g : Graph) : List (Nat × Nat) :=
  g.flatMap fun n => n.fields?.getD []

/-- How many fields are to be merged. -/
def merges (g : Graph) : Nat :=
  g.allFields.countP g.isMerge

/-- Takes a key that stands for the value of a mapping for text, now that it is one. -/
def plainKey (g : Graph) (id : Nat) : Graph :=
  if g.hasTag .value id then g.modify id fun n => { n with tag := .text } else g

/-! ## Merging -/

/-- The fields of a mapping once it has been freed of merge keys. -/
def fieldsFrom (flatten : Nat → Graph → Except Fault Graph) (id : Nat) (g : Graph) :
    Except Fault (List (Nat × Nat) × Graph) := do
  let g ← flatten id g
  return ((g.fields? id).getD [], g)

/-- The fields of several mappings, those of the last one first. -/
def fieldsFromAll (flatten : Nat → Graph → Except Fault Graph) :
    List Nat → Graph → Except Fault (List (Nat × Nat) × Graph)
  | [], g => return ([], g)
  | id :: ids, g => do
    let (first, g) ← fieldsFrom flatten id g
    let (others, g) ← fieldsFromAll flatten ids g
    return (others ++ first, g)

/-- The fields that the value of a merge key stands for. -/
def mergedFields (flatten : Nat → Graph → Except Fault Graph) (id : Nat) (g : Graph) :
    Except Fault (List (Nat × Nat) × Graph) :=
  match g[id]? with
  | some ⟨_, .sequence items⟩ => fieldsFromAll flatten items g
  | _ => fieldsFrom flatten id g

/-- Frees a mapping of its merge keys, the first of them first. Every step takes away one of so
many. -/
def flatten : Nat → Nat → Graph → Except Fault Graph
  | 0, _, _ => .error .tooDeep
  | n + 1, id, g =>
    match g.fields? id with
    | none => .error .malformed
    | some fields =>
      match fields.find? g.isMerge with
      | none => .ok (fields.foldl (fun g field => g.plainKey field.1) g)
      | some (_, value) => do
        let (merged, g) ←
          mergedFields (flatten n) value (g.setContent id (.mapping (fields.eraseP g.isMerge)))
        let g ← flatten n id g
        return g.setContent id (.mapping (merged ++ (g.fields? id).getD []))

end Graph

end PackageDoc.Yaml
