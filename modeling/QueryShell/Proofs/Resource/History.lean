import Mathlib.Data.List.Induction
import Mathlib.Data.List.Nodup
import QueryShell.Resource

/-!
References over a history of changes. A kind holds each value that was added and not removed since,
once, in the order in which the values came to stay. Whether a kind without values has an empty
entry or none makes no difference.
-/

namespace QueryShell.Resource

instance : Std.TransOrd Kind where
  eq_swap {first second} := by cases first <;> cases second <;> rfl
  isLE_trans {first second third} := by
    cases first <;> cases second <;> cases third <;> decide

instance : Std.LawfulEqOrd Kind where
  compare_self {kind} := by cases kind <;> rfl
  eq_of_compare {first second} := by cases first <;> cases second <;> decide

inductive Change where
  | add (kind : Kind) (value : String)
  | remove (kind : Kind) (values : List String)
deriving DecidableEq, Repr

namespace Change

def kind : Change → Kind
  | add kind _ => kind
  | remove kind _ => kind

def apply (holdings : Holdings) : Change → Holdings
  | add kind value => (holdings.add kind value).2
  | remove kind values => holdings.remove kind values

def drops (kind : Kind) (value : String) : Change → Bool
  | add _ _ => false
  | remove other values => other = kind && (values.isEmpty || value ∈ values)

def brings (kind : Kind) (held : List String) : Change → List String
  | add other value => if other = kind ∧ value ∉ held then [value] else []
  | remove _ _ => []

end Change

namespace Holdings

def after (history : List Change) : Holdings := history.foldl Change.apply {}

section Entries

variable {holdings : Holdings} {kind : Kind} {value : String}

theorem held_insert (entries : Std.TreeMap Kind (List String)) (other : Kind)
    (values : List String) (kind : Kind) :
    held ⟨entries.insert other values⟩ kind =
      if other = kind then values else held ⟨entries⟩ kind := by
  simp only [held, Std.TreeMap.getD_insert, Std.LawfulEqCmp.compare_eq_iff_eq]

theorem held_erase (entries : Std.TreeMap Kind (List String)) (other kind : Kind) :
    held ⟨entries.erase other⟩ kind = if other = kind then [] else held ⟨entries⟩ kind := by
  simp only [held, Std.TreeMap.getD_erase, Std.LawfulEqCmp.compare_eq_iff_eq]

/-- A change of the entry of a kind leaves a kind without an entry as it is. -/
theorem held_modify (entries : Std.TreeMap Kind (List String)) (other : Kind)
    {change : List String → List String} (still_empty : change [] = []) (kind : Kind) :
    held ⟨entries.modify other change⟩ kind =
      if other = kind then change (held ⟨entries⟩ kind) else held ⟨entries⟩ kind := by
  simp only [held, Std.TreeMap.getD_modify, Std.LawfulEqCmp.compare_eq_iff_eq]
  split
  · rename_i same
    subst same
    rw [Std.TreeMap.getD_eq_getD_getElem?]
    cases entries[other]? with
    | none => exact still_empty.symm
    | some values => rfl
  · rfl

theorem add_of_mem (present : value ∈ holdings.held kind) :
    holdings.add kind value = (false, holdings) := if_pos present

theorem add_fst_iff : (holdings.add kind value).1 = true ↔ value ∉ holdings.held kind := by
  by_cases present : value ∈ holdings.held kind
  · simp [add, present]
  · simp [add, present]

theorem held_add (holdings : Holdings) (other : Kind) (value : String) (kind : Kind) :
    (holdings.add other value).2.held kind =
      holdings.held kind ++ (Change.add other value).brings kind (holdings.held kind) := by
  by_cases present : value ∈ holdings.held other
  · rw [add_of_mem present, Change.brings, if_neg, List.append_nil]
    rintro ⟨rfl, absent⟩
    exact absent present
  · rw [add, if_neg present]
    dsimp only
    rw [held_insert]
    by_cases same : other = kind
    · subst same
      simp [Change.brings, present]
    · simp [Change.brings, same]

theorem held_remove (holdings : Holdings) (other : Kind) (values : List String) (kind : Kind) :
    (holdings.remove other values).held kind =
      (holdings.held kind).filter fun value => !(Change.remove other values).drops kind value := by
  rw [remove]
  by_cases all : values.isEmpty
  · rw [if_pos all, held_erase]
    by_cases same : other = kind
    · simp [Change.drops, all, same]
    · simp [Change.drops, same]
  · rw [if_neg all, held_modify _ _ List.filter_nil]
    by_cases same : other = kind
    · simp [Change.drops, all, same]
    · simp [Change.drops, same]

theorem held_apply (change : Change) (holdings : Holdings) (kind : Kind) :
    (change.apply holdings).held kind =
      ((holdings.held kind).filter fun value => !change.drops kind value) ++
        change.brings kind (holdings.held kind) := by
  cases change with
  | add other value =>
      have kept : (holdings.held kind).filter
          (fun each => !(Change.add other value).drops kind each) = holdings.held kind :=
        List.filter_eq_self.mpr fun _ _ => rfl
      rw [kept]
      exact held_add holdings other value kind
  | remove other values =>
      rw [Change.brings, List.append_nil]
      exact held_remove holdings other values kind

theorem held_apply_other {change : Change} (other : change.kind ≠ kind) :
    (change.apply holdings).held kind = holdings.held kind := by
  rw [held_apply]
  cases change with
  | add first value =>
      have nothing : ¬(first = kind ∧ value ∉ holdings.held kind) := fun both => other both.1
      simp [Change.drops, Change.brings, nothing]
  | remove first values =>
      have differs : first ≠ kind := other
      simp [Change.drops, Change.brings, differs]

theorem list_congr {holdings other : Holdings} (same : holdings.held kind = other.held kind)
    (filter : Option (List String)) : holdings.list kind filter = other.list kind filter := by
  simp only [list, same]

theorem isEmpty_iff : holdings.isEmpty = true ↔ ∀ kind, holdings.held kind = [] := by
  rw [isEmpty, List.all_eq_true]
  constructor
  · intro blank kind
    rw [held, Std.TreeMap.getD_eq_getD_getElem?]
    cases found : holdings.entries[kind]? with
    | none => rfl
    | some values =>
        have member := Std.TreeMap.mem_toList_iff_getElem?_eq_some.mpr found
        exact List.isEmpty_iff.mp (blank _ member)
  · rintro nothing ⟨kind, values⟩ member
    have found := Std.TreeMap.mem_toList_iff_getElem?_eq_some.mp member
    have same : holdings.held kind = values := by
      rw [held, Std.TreeMap.getD_eq_getD_getElem?, found]
      rfl
    exact List.isEmpty_iff.mpr (same.symm.trans (nothing kind))

end Entries

section History

def Stands (history : List Change) (kind : Kind) (value : String) : Prop :=
  ∃ earlier later, history = earlier ++ .add kind value :: later ∧
    ∀ change ∈ later, change.drops kind value = false

/-- Whether a value of a kind came to stay with the change at a position: it was added there, it did
not stand before, and it was not removed since. -/
def CameAt (history : List Change) (kind : Kind) (value : String) (position : Nat) : Prop :=
  ∃ earlier later, history = earlier ++ .add kind value :: later ∧ earlier.length = position ∧
    ¬Stands earlier kind value ∧ ∀ change ∈ later, change.drops kind value = false

variable {history earlier later : List Change} {change first : Change} {kind : Kind}
  {value : String} {position : Nat}

theorem concat_eq_append_cons : history ++ [change] = earlier ++ first :: later ↔
    (history = earlier ∧ change = first ∧ later = []) ∨
      ∃ between, history = earlier ++ first :: between ∧ later = between ++ [change] := by
  constructor
  · intro whole
    rcases List.eq_nil_or_concat' later with rfl | ⟨between, last, rfl⟩
    · obtain ⟨same, last⟩ := List.append_inj' whole rfl
      exact .inl ⟨same, (List.cons.inj last).1, rfl⟩
    · rw [← List.cons_append, ← List.append_assoc] at whole
      obtain ⟨same, last⟩ := List.append_inj' whole rfl
      exact .inr ⟨between, same, by rw [(List.cons.inj last).1]⟩
  · rintro (⟨rfl, rfl, rfl⟩ | ⟨between, rfl, rfl⟩)
    · rfl
    · rw [List.append_assoc, List.cons_append]

theorem stands_concat : Stands (history ++ [change]) kind value ↔
    change = .add kind value ∨ Stands history kind value ∧ change.drops kind value = false := by
  constructor
  · rintro ⟨earlier, later, whole, kept⟩
    rcases concat_eq_append_cons.mp whole with ⟨-, added, -⟩ | ⟨between, before, rfl⟩
    · exact .inl added
    · obtain ⟨kept, last⟩ := List.forall_mem_append.mp kept
      exact .inr ⟨⟨earlier, between, before, kept⟩, last change (List.mem_singleton.mpr rfl)⟩
  · rintro (rfl | ⟨⟨earlier, later, rfl, kept⟩, last⟩)
    · exact ⟨history, [], rfl, by simp⟩
    · refine ⟨earlier, later ++ [change], by simp, ?_⟩
      exact List.forall_mem_append.mpr ⟨kept, List.forall_mem_singleton.mpr last⟩

theorem cameAt_concat : CameAt (history ++ [change]) kind value position ↔
    (change = .add kind value ∧ position = history.length ∧ ¬Stands history kind value) ∨
      CameAt history kind value position ∧ change.drops kind value = false := by
  constructor
  · rintro ⟨earlier, later, whole, rfl, new, kept⟩
    rcases concat_eq_append_cons.mp whole with ⟨rfl, added, -⟩ | ⟨between, before, rfl⟩
    · exact .inl ⟨added, rfl, new⟩
    · obtain ⟨kept, last⟩ := List.forall_mem_append.mp kept
      exact .inr ⟨⟨earlier, between, before, rfl, new, kept⟩,
        last change (List.mem_singleton.mpr rfl)⟩
  · rintro (⟨rfl, rfl, new⟩ | ⟨⟨earlier, later, rfl, rfl, new, kept⟩, last⟩)
    · exact ⟨history, [], rfl, rfl, new, by simp⟩
    · refine ⟨earlier, later ++ [change], by simp, rfl, new, ?_⟩
      exact List.forall_mem_append.mpr ⟨kept, List.forall_mem_singleton.mpr last⟩

theorem CameAt.lt_length (came : CameAt history kind value position) :
    position < history.length := by
  obtain ⟨earlier, later, rfl, rfl, -, -⟩ := came
  simp

theorem CameAt.stands (came : CameAt history kind value position) :
    Stands history kind value := by
  obtain ⟨earlier, later, whole, -, -, kept⟩ := came
  exact ⟨earlier, later, whole, kept⟩

theorem CameAt.of_concat (came : CameAt (history ++ [change]) kind value position)
    (stood : Stands history kind value) : CameAt history kind value position := by
  rcases cameAt_concat.mp came with ⟨-, -, new⟩ | ⟨earlier, -⟩
  · exact (new stood).elim
  · exact earlier

theorem CameAt.eq_length (came : CameAt (history ++ [change]) kind value position)
    (new : ¬Stands history kind value) : position = history.length := by
  rcases cameAt_concat.mp came with ⟨-, last, -⟩ | ⟨earlier, -⟩
  · exact last
  · exact (new earlier.stands).elim

theorem exists_cameAt (stands : Stands history kind value) :
    ∃ position, CameAt history kind value position := by
  induction history using List.reverseRecOn with
  | nil =>
      obtain ⟨earlier, later, whole, -⟩ := stands
      simp at whole
  | append_singleton history change ih =>
      by_cases stood : Stands history kind value ∧ change.drops kind value = false
      · obtain ⟨position, came⟩ := ih stood.1
        exact ⟨position, cameAt_concat.mpr (.inr ⟨came, stood.2⟩)⟩
      · obtain rfl := (stands_concat.mp stands).resolve_right stood
        have new : ¬Stands history kind value := fun standing => stood ⟨standing, rfl⟩
        exact ⟨history.length, cameAt_concat.mpr (.inl ⟨rfl, rfl, new⟩)⟩

theorem mem_brings {values : List String} :
    value ∈ change.brings kind values ↔ change = .add kind value ∧ value ∉ values := by
  cases change with
  | remove other removed => simp [Change.brings]
  | add other added =>
      rw [Change.brings, Change.add.injEq]
      split
      · rename_i brought
        obtain ⟨rfl, absent⟩ := brought
        rw [List.mem_singleton]
        constructor
        · rintro rfl
          exact ⟨⟨rfl, rfl⟩, absent⟩
        · rintro ⟨⟨-, rfl⟩, -⟩
          rfl
      · rename_i unbrought
        refine ⟨fun none => absurd none List.not_mem_nil, ?_⟩
        rintro ⟨⟨rfl, rfl⟩, absent⟩
        exact (unbrought ⟨rfl, absent⟩).elim

theorem brings_cases (change : Change) (kind : Kind) (values : List String) :
    change.brings kind values = [] ∨ ∃ value, change.brings kind values = [value] := by
  cases change with
  | remove other removed => exact .inl rfl
  | add other added =>
      rw [Change.brings]
      split
      · exact .inr ⟨added, rfl⟩
      · exact .inl rfl

structure Faithful (history : List Change) (kind : Kind) (values : List String) : Prop where
  nodup : values.Nodup
  mem_iff : ∀ value, value ∈ values ↔ Stands history kind value
  ordered : values.Pairwise fun first second => ∀ before behind,
    CameAt history kind first before → CameAt history kind second behind → before < behind

theorem Faithful.step {values : List String} (faithful : Faithful history kind values)
    (change : Change) :
    Faithful (history ++ [change]) kind
      ((values.filter fun value => !change.drops kind value) ++ change.brings kind values) := by
  have single := brings_cases change kind values
  refine ⟨?_, fun value => ?_, ?_⟩
  · refine List.nodup_append.mpr ⟨faithful.nodup.filter _, ?_, ?_⟩
    · rcases single with none | ⟨value, one⟩
      · simp [none]
      · simp [one]
    · rintro value kept other brought rfl
      exact (mem_brings.mp brought).2 (List.mem_of_mem_filter kept)
  · rw [List.mem_append, List.mem_filter, mem_brings, stands_concat, faithful.mem_iff]
    by_cases stood : Stands history kind value
    · by_cases added : change = .add kind value
      · simp [stood, added, Change.drops]
      · simp [stood, added]
    · simp [stood]
  · refine List.pairwise_append.mpr ⟨?_, ?_, ?_⟩
    · refine (faithful.ordered.filter _).imp_of_mem ?_
      intro first second first_kept second_kept earlier before behind first_came second_came
      have first_stood := (faithful.mem_iff first).mp (List.mem_of_mem_filter first_kept)
      have second_stood := (faithful.mem_iff second).mp (List.mem_of_mem_filter second_kept)
      exact earlier before behind (first_came.of_concat first_stood)
        (second_came.of_concat second_stood)
    · rcases single with none | ⟨value, one⟩
      · simp [none]
      · simp [one]
    · intro first kept second brought before behind first_came second_came
      have stood := (faithful.mem_iff first).mp (List.mem_of_mem_filter kept)
      have new : ¬Stands history kind second := fun standing =>
        (mem_brings.mp brought).2 ((faithful.mem_iff second).mpr standing)
      rw [second_came.eq_length new]
      exact (first_came.of_concat stood).lt_length

theorem faithful_after (history : List Change) (kind : Kind) :
    Faithful history kind ((after history).held kind) := by
  induction history using List.reverseRecOn with
  | nil =>
      have nothing : (after []).held kind = [] := rfl
      rw [nothing]
      refine ⟨.nil, fun value => ⟨fun none => absurd none List.not_mem_nil, ?_⟩, .nil⟩
      rintro ⟨earlier, later, whole, -⟩
      simp at whole
  | append_singleton history change ih =>
      have next : after (history ++ [change]) = change.apply (after history) := by
        rw [after, List.foldl_concat]
        rfl
      rw [next, held_apply]
      exact ih.step change

/-- After any history of additions and removals each kind lists the values that were added and not
removed since, each once and in the order in which they came to stay. A value is reported as new
exactly if it was not listed, and only then changes anything; a removal without values empties its
kind; no change touches another kind; a filter only leaves values out; and nothing is held exactly
if every kind lists nothing. -/
theorem ordered_set (history : List Change) :
    let holdings := after history
    (∀ kind,
      (holdings.list kind none).Nodup ∧
      (∀ value, value ∈ holdings.list kind none ↔ Stands history kind value) ∧
      (∀ value ∈ holdings.list kind none, ∃ position, CameAt history kind value position) ∧
      (holdings.list kind none).Pairwise fun first second => ∀ before behind,
        CameAt history kind first before → CameAt history kind second behind → before < behind) ∧
    (∀ kind value,
      ((holdings.add kind value).1 = true ↔ value ∉ holdings.list kind none) ∧
      (value ∈ holdings.list kind none → (holdings.add kind value).2 = holdings)) ∧
    (∀ kind, (holdings.remove kind []).list kind none = []) ∧
    (∀ (change : Change) (kind : Kind), change.kind ≠ kind → ∀ filter,
      (change.apply holdings).list kind filter = holdings.list kind filter) ∧
    (∀ kind filter,
      holdings.list kind (some filter) = (holdings.list kind none).filter (· ∈ filter) ∧
      ∀ other, (∀ value, value ∈ other ↔ value ∈ filter) →
        holdings.list kind (some other) = holdings.list kind (some filter)) ∧
    (holdings.isEmpty = true ↔ ∀ kind, holdings.list kind none = []) := by
  intro holdings
  refine ⟨fun kind => ?_, fun kind value => ⟨add_fst_iff, ?_⟩, fun kind => ?_, ?_, ?_, isEmpty_iff⟩
  · have faithful := faithful_after history kind
    refine ⟨faithful.nodup, faithful.mem_iff, fun value member => ?_, faithful.ordered⟩
    exact exists_cameAt ((faithful.mem_iff value).mp member)
  · intro present
    rw [add_of_mem present]
  · exact (held_remove holdings kind [] kind).trans (by simp [Change.drops])
  · intro change kind other filter
    exact list_congr (held_apply_other other) filter
  · intro kind filter
    refine ⟨rfl, fun other same => ?_⟩
    simp only [list, same]

theorem ordered_set_readded :
    let history : List Change :=
      [.add .jar "a", .add .jar "b", .remove .jar ["a"], .add .jar "a", .remove .file []]
    let holdings := after history
    holdings.list .jar none = ["b", "a"] ∧
      (∃ before behind, CameAt history .jar "b" before ∧ CameAt history .jar "a" behind ∧
        before < behind) ∧
      ("b" ∈ holdings.list .jar none ∧ (holdings.add .jar "b").2 = holdings) ∧
      (holdings.remove .file ["a"]).list .jar none = holdings.list .jar none ∧
      holdings.list .jar (some ["a", "c", "a"]) = holdings.list .jar (some ["c", "a"]) := by
  intro history holdings
  obtain ⟨held, added, -, apart, filtered, -⟩ := ordered_set history
  obtain ⟨-, -, came, ordered⟩ := held .jar
  have listed : holdings.list .jar none = ["b", "a"] := by decide +kernel
  have member : "b" ∈ holdings.list .jar none := by simp [listed]
  have last : "a" ∈ holdings.list .jar none := by simp [listed]
  obtain ⟨before, first⟩ := came "b" member
  obtain ⟨behind, second⟩ := came "a" last
  refine ⟨listed, ⟨before, behind, first, second, ?_⟩, ⟨member, (added .jar "b").2 member⟩, ?_, ?_⟩
  · rw [listed] at ordered
    exact List.pairwise_pair.mp ordered before behind first second
  · exact apart (.remove .file ["a"]) .jar (by decide) none
  · exact (filtered .jar ["c", "a"]).2 ["a", "c", "a"] (by simp)

end History

end Holdings

end QueryShell.Resource
