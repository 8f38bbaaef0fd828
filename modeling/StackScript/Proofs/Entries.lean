import Mathlib.Data.List.Forall2
import StackScript.Bindings

namespace StackScript

/-!
# The table of bindings

Binding a name replaces its value where the name stands or adds the name at the end.  What this does
to membership, to looking up and to the other names is all that the rest of the theory needs of it.
-/

namespace Bindings

variable {name known : String} {value : Value}

/-- Binding a name adds its value and no other. -/
theorem mem_insertEntry
    {entry : String × Value}
    {entries : List (String × Value)}
    (member : entry ∈ insertEntry name value entries) :
    entry ∈ entries ∨ entry = (name, value) := by
  induction entries with
  | nil =>
      exact .inr (List.mem_singleton.mp member)
  | cons first rest inductionHypothesis =>
      rcases first with ⟨known, old⟩
      unfold insertEntry at member
      split at member
      · next isName =>
        rcases List.mem_cons.mp member with isNew | inRest
        · exact .inr (isName ▸ isNew)
        · exact .inl (List.mem_cons_of_mem _ inRest)
      · rcases List.mem_cons.mp member with isFirst | inRest
        · exact .inl (by simp [isFirst])
        · rcases inductionHypothesis inRest with kept | isNew
          · exact .inl (List.mem_cons_of_mem _ kept)
          · exact .inr isNew

theorem lookup_insertEntry_of_ne
    (isOther : known ≠ name)
    (value : Value)
    (entries : List (String × Value)) :
    (insertEntry known value entries).lookup name = entries.lookup name := by
  have notKnown : (name == known) = false :=
    beq_eq_false_iff_ne.mpr isOther.symm
  induction entries with
  | nil =>
      simp [insertEntry, List.lookup_cons, notKnown]
  | cons entry rest inductionHypothesis =>
      rcases entry with ⟨first, old⟩
      by_cases isKnown : first = known
      · subst isKnown
        simp [insertEntry, List.lookup_cons, notKnown]
      · simp [insertEntry, isKnown, List.lookup_cons, inductionHypothesis]

theorem lookup_insertEntry_self
    (name : String)
    (value : Value)
    (entries : List (String × Value)) :
    (insertEntry name value entries).lookup name = some value := by
  induction entries with
  | nil =>
      simp [insertEntry]
  | cons entry rest inductionHypothesis =>
      rcases entry with ⟨first, old⟩
      by_cases isName : first = name
      · simp [insertEntry, isName]
      · have notFirst : (name == first) = false :=
          beq_eq_false_iff_ne.mpr (Ne.symm isName)
        simp [insertEntry, isName, List.lookup_cons, notFirst, inductionHypothesis]

/-- Binding a name adds it to the names and keeps the others. -/
theorem mem_names_insertEntry_iff
    {entries : List (String × Value)} :
    known ∈ (insertEntry name value entries).map Prod.fst ↔
      known ∈ entries.map Prod.fst ∨ known = name := by
  induction entries with
  | nil =>
      simp [insertEntry]
  | cons entry rest inductionHypothesis =>
      rcases entry with ⟨first, old⟩
      by_cases isName : first = name
      · subst isName
        simp only [insertEntry, ↓reduceIte, List.map_cons, List.mem_cons]
        tauto
      · simp only [insertEntry, isName, ↓reduceIte, List.map_cons, List.mem_cons,
          inductionHypothesis]
        tauto

/-- Binding a name that is known keeps the names in their places, and a new name is the last. -/
theorem names_insertEntry
    (name : String)
    (value : Value)
    (entries : List (String × Value)) :
    (insertEntry name value entries).map Prod.fst =
      if name ∈ entries.map Prod.fst then
        entries.map Prod.fst
      else
        entries.map Prod.fst ++ [name] := by
  induction entries with
  | nil =>
      rfl
  | cons entry rest inductionHypothesis =>
      rcases entry with ⟨first, old⟩
      by_cases isName : first = name
      · simp [insertEntry, isName]
      · have notFirst : ¬name = first :=
          Ne.symm isName
        simp only [insertEntry, isName, ↓reduceIte, List.map_cons, inductionHypothesis,
          List.mem_cons, notFirst, false_or]
        split <;> rfl

/-- Binding a name keeps the names apart. -/
theorem nodup_names_insertEntry
    {entries : List (String × Value)}
    (unique : (entries.map Prod.fst).Nodup)
    (name : String)
    (value : Value) :
    ((insertEntry name value entries).map Prod.fst).Nodup := by
  rw [names_insertEntry]
  split
  · exact unique
  · next notKnown =>
    rw [List.nodup_append]
    refine ⟨unique, by simp, ?_⟩
    intro known member other isName same
    rw [List.mem_singleton.mp isName] at same
    exact notKnown (same ▸ member)

/-- The bindings of all other names. -/
def without (bindings : Bindings) (name : String) : List (String × Value) :=
  bindings.entries.filter (·.1 ≠ name)

/-- A name that is left out is not found, in a table of whatever. -/
theorem lookup_filter_self
    {Held : Type}
    (name : String)
    (entries : List (String × Held)) :
    (entries.filter (·.1 ≠ name)).lookup name = none := by
  rw [List.lookup_eq_none_iff]
  intro entry member
  have notName : entry.1 ≠ name := by
    simpa using (List.mem_filter.mp member).2
  simpa using Ne.symm notName

/-- Another name is found whether or not a name is left out, in a table of whatever. -/
theorem lookup_filter_of_ne
    {Held : Type}
    (isOther : known ≠ name)
    (entries : List (String × Held)) :
    (entries.filter (·.1 ≠ name)).lookup known = entries.lookup known := by
  have notName : (known == name) = false :=
    beq_eq_false_iff_ne.mpr isOther
  induction entries with
  | nil =>
      rfl
  | cons entry rest inductionHypothesis =>
      rcases entry with ⟨first, held⟩
      by_cases isName : first = name
      · subst isName
        simpa [List.lookup_cons, notName] using inductionHypothesis
      · simp only [ne_eq, isName, not_false_eq_true, decide_true, List.filter_cons_of_pos,
          List.lookup_cons]
        rw [inductionHypothesis]

theorem lookup_without
    (bindings : Bindings)
    (isOther : known ≠ name) :
    (bindings.without name).lookup known = bindings.get? known :=
  lookup_filter_of_ne isOther bindings.entries

/-- Binding another name commutes with leaving a name out. -/
theorem without_insertEntry
    (isOther : known ≠ name)
    (value : Value)
    (bindings : Bindings) :
    without ⟨insertEntry known value bindings.entries⟩ name =
      insertEntry known value (bindings.without name) := by
  unfold without
  induction bindings.entries with
  | nil =>
      simp [insertEntry, isOther]
  | cons entry rest inductionHypothesis =>
      rcases entry with ⟨first, old⟩
      by_cases isKnown : first = known
      · subst isKnown
        simp [insertEntry, isOther]
      · by_cases isName : first = name
        · have notKnown : ¬name = known :=
            fun same => isOther same.symm
          subst isName
          simpa [insertEntry, notKnown] using inductionHypothesis
        · simpa [insertEntry, isKnown, isName] using inductionHypothesis

/-- Tables that bind the same names in the same order to related values. -/
def Related (values : Value → Value → Prop) (bindings bindings' : Bindings) : Prop :=
  List.Forall₂
    (fun entry entry' => entry.1 = entry'.1 ∧ values entry.2 entry'.2)
    bindings.entries bindings'.entries

namespace Related

variable {values : Value → Value → Prop} {bindings bindings' : Bindings}

theorem get?
    (related : bindings.Related values bindings')
    (name : String) :
    Option.Rel values (bindings.get? name) (bindings'.get? name) := by
  unfold Related at related
  unfold Bindings.get?
  generalize bindings.entries = entries at related ⊢
  generalize bindings'.entries = entries' at related ⊢
  induction related with
  | nil =>
      exact .none
  | @cons entry entry' rest rest' alike _ inductionHypothesis =>
      rcases entry with ⟨known, held⟩
      rcases entry' with ⟨known', held'⟩
      obtain ⟨rfl, alikeValues⟩ := alike
      simp only [List.lookup_cons]
      cases name == known with
      | true =>
          exact .some alikeValues
      | false =>
          exact inductionHypothesis

theorem insertEntry
    (related : bindings.Related values bindings')
    (name : String)
    {value value' : Value}
    (alikeValues : values value value') :
    Related values
      ⟨Bindings.insertEntry name value bindings.entries⟩
      ⟨Bindings.insertEntry name value' bindings'.entries⟩ := by
  unfold Related at related ⊢
  generalize bindings.entries = entries at related ⊢
  generalize bindings'.entries = entries' at related ⊢
  induction related with
  | nil =>
      exact .cons ⟨rfl, alikeValues⟩ .nil
  | @cons entry entry' rest rest' alike relatedRest inductionHypothesis =>
      rcases entry with ⟨known, held⟩
      rcases entry' with ⟨known', held'⟩
      obtain ⟨rfl, alikeHeld⟩ := alike
      simp only [Bindings.insertEntry]
      split
      · exact .cons ⟨rfl, alikeValues⟩ relatedRest
      · exact .cons ⟨rfl, alikeHeld⟩ inductionHypothesis

end Related

end Bindings

end StackScript
