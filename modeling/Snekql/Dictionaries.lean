import Mathlib.Data.List.Basic

/-!
# Dictionaries

A dictionary is the list of its items in the order in which the keys were first set. Setting
a present key keeps its place. Two dictionaries are the same when they give every key the
same value, whatever the order.
-/

namespace Snekql.Dictionary

universe u v
variable {Key : Type u} {Value : Type v} [DecidableEq Key]

/-- The value of a key. -/
def get (items : List (Key × Value)) (key : Key) : Option Value :=
  (items.find? (fun item => item.1 = key)).map Prod.snd

def set : List (Key × Value) → Key → Value → List (Key × Value)
  | [], key, value => [(key, value)]
  | item :: rest, key, value =>
    if item.1 = key then (key, value) :: rest else item :: set rest key value

def remove (items : List (Key × Value)) (key : Key) : List (Key × Value) :=
  items.filter (fun item => item.1 ≠ key)

/-- Set the items in order. -/
def ofItems (items : List (Key × Value)) : List (Key × Value) :=
  items.foldl (fun built item => set built item.1 item.2) []

/-- The same value for every key of either dictionary. -/
def same [DecidableEq Value] (left right : List (Key × Value)) : Bool :=
  (left ++ right).all (fun item => get left item.1 = get right item.1)

theorem get_cons (item : Key × Value) (rest : List (Key × Value)) (key : Key) :
    get (item :: rest) key = if item.1 = key then some item.2 else get rest key := by
  by_cases first : item.1 = key
  · simp [get, first]
  · simp [get, first]

theorem get_set (items : List (Key × Value)) (key : Key) (value : Value) (other : Key) :
    get (set items key value) other = if key = other then some value else get items other := by
  induction items with
  | nil => simp [set, get_cons]
  | cons item rest ih =>
    by_cases first : item.1 = key
    · by_cases asked : key = other
      · simp [set, first, get_cons, asked]
      · simp [set, first, get_cons, asked]
    · by_cases asked : item.1 = other
      · have different : key ≠ other := fun equal => first (asked.trans equal.symm)
        rw [set, if_neg first, get_cons, if_pos asked, if_neg different, get_cons, if_pos asked]
      · simp [set, first, get_cons, asked, ih]

theorem get_set_self (items : List (Key × Value)) (key : Key) (value : Value) :
    get (set items key value) key = some value := by
  simp [get_set]

/-- Only the last value set for a key counts. -/
theorem set_set (items : List (Key × Value)) (key : Key) (first last : Value) :
    set (set items key first) key last = set items key last := by
  induction items with
  | nil => simp [set]
  | cons item rest ih =>
    by_cases here : item.1 = key
    · simp [set, here]
    · simp [set, here, ih]

variable {items : List (Key × Value)}

/-- What holds of every item and of a new one holds after setting it. -/
theorem forall_set {kept : Key × Value → Prop} {key : Key} {value : Value}
    (all : ∀ item ∈ items, kept item) (new : kept (key, value)) :
    ∀ item ∈ set items key value, kept item := by
  induction items with
  | nil =>
    intro item listed
    obtain rfl := List.mem_singleton.mp listed
    exact new
  | cons first rest ih =>
    intro item listed
    by_cases here : first.1 = key
    · simp only [set, here, if_true] at listed
      obtain rfl | later := List.mem_cons.mp listed
      · exact new
      · exact all item (List.mem_cons_of_mem _ later)
    · simp only [set, here, if_false] at listed
      obtain rfl | later := List.mem_cons.mp listed
      · exact all _ List.mem_cons_self
      · exact ih (fun item listed => all item (List.mem_cons_of_mem _ listed))
          item later

theorem forall_ofItems {kept : Key × Value → Prop} (all : ∀ item ∈ items, kept item) :
    ∀ item ∈ ofItems items, kept item := by
  have built (read : List (Key × Value)) (before : ∀ item ∈ read, kept item) :
      ∀ item ∈ items.foldl (fun built item => set built item.1 item.2) read, kept item := by
    induction items generalizing read with
    | nil => exact before
    | cons first rest ih =>
      exact ih (fun item listed => all item (List.mem_cons_of_mem _ listed)) _
        (forall_set before (all first List.mem_cons_self))
  apply built
  intro item listed
  cases listed

/-- The key of every item has a value. -/
theorem get_ofItems_of_mem {item : Key × Value} (listed : item ∈ items) :
    ∃ value, get (ofItems items) item.1 = some value := by
  have built (items read : List (Key × Value))
      (present : item ∈ items ∨ ∃ value, get read item.1 = some value) :
      ∃ value, get (items.foldl (fun built item => set built item.1 item.2) read) item.1 =
        some value := by
    induction items generalizing read with
    | nil =>
      obtain listed | present := present
      · cases listed
      · exact present
    | cons first rest ih =>
      refine ih _ ?_
      by_cases same : first.1 = item.1
      · refine .inr ⟨first.2, ?_⟩
        rw [get_set, if_pos same]
      · obtain listed | ⟨value, present⟩ := present
        · obtain rfl | later := List.mem_cons.mp listed
          · exact absurd rfl same
          · exact .inl later
        · refine .inr ⟨value, ?_⟩
          rw [get_set, if_neg same, present]
  exact built items [] (.inl listed)

/-- A value that is read belongs to an item. -/
theorem mem_of_get {key : Key} {value : Value} (read : get items key = some value) :
    (key, value) ∈ items := by
  induction items with
  | nil => cases read
  | cons item rest ih =>
    rw [get_cons] at read
    split at read
    · rename_i here
      cases read
      cases here
      exact List.mem_cons_self
    · exact List.mem_cons_of_mem _ (ih read)

theorem get_eq_none_iff {key : Key} : get items key = none ↔ ∀ item ∈ items, item.1 ≠ key := by
  simp [get]

/-- The check over the present keys decides equality at every key. -/
theorem same_iff [DecidableEq Value] {left right : List (Key × Value)} :
    same left right = true ↔ ∀ key, get left key = get right key := by
  constructor
  · intro checked key
    simp only [same, List.all_eq_true, List.mem_append, decide_eq_true_eq] at checked
    by_cases inLeft : ∃ item ∈ left, item.1 = key
    · obtain ⟨item, listed, rfl⟩ := inLeft
      exact checked item (Or.inl listed)
    · by_cases inRight : ∃ item ∈ right, item.1 = key
      · obtain ⟨item, listed, rfl⟩ := inRight
        exact checked item (Or.inr listed)
      · push_neg at inLeft inRight
        rw [get_eq_none_iff.mpr inLeft, get_eq_none_iff.mpr inRight]
  · intro equal
    simp only [same, List.all_eq_true, decide_eq_true_eq]
    intro item _
    exact equal item.1

end Snekql.Dictionary
