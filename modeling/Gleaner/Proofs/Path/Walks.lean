import Gleaner.Selector
import Gleaner.Proofs.Path.Segments

/-! # What plain paths find

    A walk along segments starts with the document alone and replaces the values it has
    reached, segment by segment: each by its member of that name, if it has one, or by its
    children. A plain path finds the values of the walk, in the order of the walk.

    So a plain path never fails. It finds the first value of the walk, and there is no match
    only if the walk ends with nothing. Along names alone the walk has one value at most, the
    one that is reached by indexing the document by the names in turn.
-/

namespace Gleaner

namespace Path

variable {name : Text} {path first second : Path} {node : Node} {values : List Document}
  {segments : List Segment} {document : Document}

/-! ## Walks -/

/-- The values that a segment leads to from a value. -/
def Segment.next : Segment → Document → List Document
  | member name, value => (value.member? name).toList
  | items, value => value.children

/-- The values that segments lead to from a document. -/
def walk (segments : List Segment) (document : Document) : List Document :=
  segments.foldl (fun values segment => values.flatMap segment.next) [document]

/-- A walk from several values is a walk from each, one after the other. -/
theorem foldl_values_eq_flatMap_walk (segments : List Segment) (values : List Document) :
    segments.foldl (fun values segment => values.flatMap segment.next) values =
      values.flatMap (walk segments) := by
  induction segments generalizing values with
  | nil =>
    show values = values.flatMap fun value => [value]
    rw [List.flatMap_singleton']
  | cons segment segments ih =>
    have hwalk : walk (segment :: segments) =
        fun value => (segment.next value).flatMap (walk segments) := by
      funext value
      show segments.foldl _ ([value].flatMap segment.next) = _
      rw [ih, List.flatMap_singleton]
    rw [List.foldl_cons, ih, List.flatMap_assoc, hwalk]

theorem walk_cons (segment : Segment) (segments : List Segment) (document : Document) :
    walk (segment :: segments) document =
      (segment.next document).flatMap (walk segments) := by
  show segments.foldl _ ([document].flatMap segment.next) = _
  rw [foldl_values_eq_flatMap_walk, List.flatMap_singleton]

/-! ## Places that are found -/

/-- From a place, a path finds places that hold these values, and it does not fail. -/
def Finds (path : Path) (node : Node) (values : List Document) : Prop :=
  ∃ nodes : List Node, path.find node = some (nodes.map .node) ∧ nodes.map Node.value = values

theorem map_value_itemsFrom (node : Node) (position : Nat) (values : List Document) :
    (node.itemsFrom position values).map Node.value = values := by
  induction values generalizing position with
  | nil => rfl
  | cons value values ih =>
    rw [Node.itemsFrom, List.map_cons, ih]
    rfl

theorem map_value_children (node : Node) :
    node.children.map Node.value = node.value.children := by
  unfold Node.children
  rcases node.value with _ | _ | _ | _ | _ | items | members
  case array => exact map_value_itemsFrom node 0 items
  case object => exact List.map_map
  all_goals rfl

theorem finds_segment (segment : Segment) (node : Node) :
    Finds segment.path node (segment.next node.value) := by
  rcases segment with name | _
  · refine ⟨(node.member? name).toList, ?_, ?_⟩
    · show some (([name].filterMap fun name => node.member? name).map Match.node) = _
      rcases hmember : node.member? name with _ | found
      · simp [hmember]
      · simp [hmember]
    · show (Option.map _ _).toList.map Node.value = (node.value.member? name).toList
      rw [← Option.toList_map, Option.map_map]
      simp [Function.comp_def, Node.value]
  · exact ⟨node.children, rfl, map_value_children node⟩

/-- A path of one finding after another finds the values that are reached through both. -/
theorem Finds.child {onward : Document → List Document} (hfirst : Finds first node values)
    (hsecond : ∀ n, Finds second n (onward n.value)) :
    Finds (.child first second) node (values.flatMap onward) := by
  obtain ⟨nodes, hfound, rfl⟩ := hfirst
  show ∃ found, (first.find node).bind (gather fun m => second.find m.toNode) = _ ∧ _
  rw [hfound, Option.bind_some]
  clear hfound
  induction nodes with
  | nil => exact ⟨[], rfl, rfl⟩
  | cons n nodes ih =>
    obtain ⟨there, hthere, htherevalues⟩ := ih
    obtain ⟨here, hhere, hherevalues⟩ := hsecond n
    refine ⟨here ++ there, ?_, ?_⟩
    · show (second.find n).bind (fun here => (gather _ _).bind fun there => some (here ++ there)) = _
      rw [hhere, hthere, List.map_append]
      rfl
    · rw [List.map_append, hherevalues, htherevalues, List.map_cons, List.flatMap_cons]

/-- What is found along segments is what is found before them, walked on from. -/
theorem Finds.along (h : Finds path node values) (segments : List Segment) :
    Finds (path.along segments) node
      (segments.foldl (fun values segment => values.flatMap segment.next) values) := by
  induction segments generalizing path values with
  | nil => exact h
  | cons segment segments ih =>
    have hstep : Finds (.child path segment.path) node (values.flatMap segment.next) :=
      h.child fun n => finds_segment segment n
    exact ih hstep

theorem valuesIn_of_finds (h : Finds path (.start document .this) values) :
    path.valuesIn document = some values := by
  obtain ⟨nodes, hfound, rfl⟩ := h
  rw [valuesIn, hfound, Option.bind_some, values?]
  clear hfound
  induction nodes with
  | nil => rfl
  | cons n nodes ih =>
    rw [List.map_cons, List.mapM_cons, ih]
    rfl

/-- The text of a plain path finds the walk along its segments. -/
theorem evaluate_written (h : ∀ s ∈ segments, s.Plain) (document : Document) :
    evaluate (written segments) document = some (walk segments document) := by
  have hroot : Finds .root (.start document .this) [document] :=
    ⟨[.start document .root], rfl, rfl⟩
  rw [evaluate, ofText?_written h, Option.bind_some]
  exact valuesIn_of_finds (hroot.along segments)

end Path

/-! ## Walks along names -/

namespace Document

/-- A text indexes a document as the name of a member. What has no such member is no object,
    or an object without it. -/
theorem index_string (name : Text) (document : Document) :
    (∃ value, document.member? name = some value ∧ document.index (.string name) = .ok value) ∨
    (document.member? name = none ∧
      (document.index (.string name) = .error .missingKey ∨
        document.index (.string name) = .error .wrongKind)) := by
  rcases document with _ | _ | _ | _ | _ | items | members
  case object =>
    rcases hmember : Keyed.get? name members with _ | value
    · refine .inr ⟨hmember, .inl ?_⟩
      simp only [index, hmember]
    · refine .inl ⟨value, hmember, ?_⟩
      simp only [index, hmember]
  all_goals exact .inr ⟨rfl, .inr rfl⟩

/-- A walk along names reaches what indexing by the names in turn reaches. -/
theorem indexAll_strings (names : List Text) (document : Document) :
    (∃ value, Path.walk (names.map .member) document = [value] ∧
      document.indexAll (names.map .string) = .ok value) ∨
    (Path.walk (names.map .member) document = [] ∧
      (document.indexAll (names.map .string) = .error .missingKey ∨
        document.indexAll (names.map .string) = .error .wrongKind)) := by
  induction names generalizing document with
  | nil => exact .inl ⟨document, rfl, rfl⟩
  | cons name names ih =>
    simp only [List.map_cons, Path.walk_cons, Path.Segment.next, indexAll]
    rcases index_string name document with ⟨value, hmember, hindex⟩ | ⟨hmember, hindex⟩
    · rw [hmember, hindex, Option.toList_some, List.flatMap_singleton]
      exact ih value
    · rw [hmember, Option.toList_none, List.flatMap_nil]
      refine .inr ⟨rfl, ?_⟩
      rcases hindex with hindex | hindex
      · exact .inl (by rw [hindex])
      · exact .inr (by rw [hindex])

end Document

namespace Selector

/-- A plain path picks the first value of the walk along its segments; nothing matches if the
    walk ends with nothing, and the path never fails. Along names alone it finds what a
    function finds that follows them as keys, and nothing matches where the function has no
    key to follow or no object to look in. -/
theorem select_of_segments (segments : List Path.Segment) (h : ∀ s ∈ segments, s.Plain)
    (document : Document) :
    let text : Document := .string (Path.written segments)
    let walked := Path.walk segments document
    let selected := (path text).select document
    evaluate text document = some walked ∧
    (∀ first others, walked = first :: others →
      selected = (.ok { status := .found, value := first }, [])) ∧
    (walked = [] → selected = (.ok (.ofStatus .noMatch), [])) ∧
    ∀ names : List Text, segments = names.map .member →
      let followed := (followingKeys (names.map .string)).select document
      (∀ value, selected = (.ok { status := .found, value }, []) ↔
        followed = (.ok { status := .found, value }, [])) ∧
      (selected = (.ok (.ofStatus .noMatch), []) ↔
        followed = (.error .missingKey, []) ∨ followed = (.error .wrongKind, [])) := by
  intro text walked selected
  have hfound : evaluate text document = some walked := Path.evaluate_written h document
  have hselected : selected = (.ok (outcomeOf walked), []) := by
    simp only [selected, select, hfound]
  refine ⟨hfound, ?_, ?_, ?_⟩
  · intro first others hwalked
    rw [hselected, hwalked]
    rfl
  · intro hwalked
    rw [hselected, hwalked]
    rfl
  · rintro names rfl followed
    have hfollowed : followed =
        (((document.indexAll (names.map .string)).mapError indexFault).map
          fun value => { status := .found, value }, []) := rfl
    rcases document.indexAll_strings names with ⟨value, hwalk, hindex⟩ | ⟨hwalk, hindex⟩
    · have hreached : walked = [value] := hwalk
      rw [hselected, hfollowed, hreached, hindex]
      simp [outcomeOf, Except.map, Except.mapError, Outcome.ofStatus]
    · have hnothing : walked = [] := hwalk
      rw [hselected, hfollowed, hnothing]
      rcases hindex with hindex | hindex
      all_goals
        rw [hindex]
        simp [outcomeOf, Except.map, Except.mapError, Outcome.ofStatus, indexFault]

/-- A null is found like any other value, and an item without the member is passed over. -/
theorem select_of_segments_null :
    let segments : List Path.Segment := [.member "a", .items, .member "b"]
    let document : Document := .object
      [("a", .array [.int 3, .object [("c", .int 1)], .object [("b", .null)],
        .object [("b", .int 2)]])]
    (∀ s ∈ segments, s.Plain) ∧ Path.written segments = "$.a[*].b" ∧
      Path.walk segments document = [.null, .int 2] ∧
      (path (.string (Path.written segments))).select document =
        (.ok { status := .found, value := .null }, []) := by
  intro segments document
  have hplain : ∀ s ∈ segments, s.Plain := by decide
  have hwalk : Path.walk segments document = [.null, .int 2] := rfl
  exact ⟨hplain, by decide, hwalk, (select_of_segments segments hplain document).2.1 _ _ hwalk⟩

end Selector

end Gleaner
