import Mathlib.Algebra.Group.Nat.Defs
import Mathlib.Data.List.Nodup
import Mathlib.Data.List.Sort

/-!
# Objects

Objects of the language as maps from strings: a property that is assigned again keeps its place, and the keys
are enumerated with array indices first, by their value, and the others in the order in which they were added.
-/

namespace Text

variable {α : Type}

/-- The properties of an object in the order in which they were added, with distinct keys. -/
structure Object (α : Type) where
  props : List (List UInt16 × α)
  nodup : (props.map Prod.fst).Nodup

/-- Set a property where it stands, or add it at the end. -/
def setProp (key : List UInt16) (a : α) : List (List UInt16 × α) → List (List UInt16 × α)
  | [] => [(key, a)]
  | e :: es => if e.1 = key then (key, a) :: es else e :: setProp key a es

theorem map_setProp (key : List UInt16) (a : α) (es : List (List UInt16 × α)) :
    (setProp key a es).map Prod.fst =
      if key ∈ es.map Prod.fst then es.map Prod.fst else es.map Prod.fst ++ [key] := by
  induction es with
  | nil => rfl
  | cons e es ih =>
    by_cases he : e.1 = key
    · simp [setProp, he]
    · have hne : key ≠ e.1 := fun h => he h.symm
      simp only [setProp, if_neg he, List.map_cons, ih, List.mem_cons, hne, false_or]
      split <;> rfl

theorem lookup_prop (key : List UInt16) (e : List UInt16 × α) (es : List (List UInt16 × α)) :
    (e :: es).lookup key = if key = e.1 then some e.2 else es.lookup key := by
  rw [List.lookup_cons]
  by_cases h : key = e.1
  · rw [if_pos h, beq_iff_eq.2 h]
  · rw [if_neg h, beq_eq_false_iff_ne.2 h]

theorem lookup_setProp (key key' : List UInt16) (a : α) (es : List (List UInt16 × α)) :
    (setProp key a es).lookup key' = if key' = key then some a else es.lookup key' := by
  induction es with
  | nil => exact lookup_prop key' (key, a) []
  | cons e es ih =>
    by_cases he : e.1 = key
    · rw [setProp, if_pos he, lookup_prop, lookup_prop, he]
      split <;> rfl
    · rw [setProp, if_neg he, lookup_prop, lookup_prop, ih]
      by_cases h : key' = e.1
      · rw [if_pos h, if_pos h, if_neg fun hk => he (h.symm.trans hk)]
      · rw [if_neg h, if_neg h]

namespace Object

/-- The object without properties. -/
def empty : Object α := ⟨[], List.nodup_nil⟩

/-- `o[key] = a` -/
def assign (o : Object α) (key : List UInt16) (a : α) : Object α where
  props := setProp key a o.props
  nodup := by
    rw [map_setProp]
    split
    · exact o.nodup
    · next h => exact List.nodup_append.2 ⟨o.nodup, List.nodup_singleton key, fun a ha b hb hab => h (by
        rw [← List.mem_singleton.1 hb, ← hab]
        exact ha)⟩

/-- Assign properties one after the other. -/
def assignAll (o : Object α) (es : List (List UInt16 × α)) : Object α :=
  es.foldl (fun o e => o.assign e.1 e.2) o

/-- The object of a list of properties, of which later ones win. -/
def ofList (es : List (List UInt16 × α)) : Object α := empty.assignAll es

/-- `{...o, ...o'}` -/
def spread (o o' : Object α) : Object α := o.assignAll o'.props

/-- The keys in the order in which they were added. -/
def names (o : Object α) : List (List UInt16) := o.props.map Prod.fst

/-- `o[key]` -/
def get? (o : Object α) (key : List UInt16) : Option α := o.props.lookup key

/-- The array index that a key is the numeral of. -/
def index? (key : List UInt16) : Option Nat :=
  if key.isEmpty || !(key.all fun u => 48 ≤ u && u ≤ 57) ||
    (key.head? == some 48 && key.length != 1) then none
  else
    let n := key.foldl (fun n u => n * 10 + (u.toNat - 48)) 0
    if n < 2 ^ 32 - 1 then some n else none

/-- A key that is an array index. -/
def isIndex (key : List UInt16) : Bool := (index? key).isSome

/-- The keys that are array indices, by their value. -/
def indexKeys (o : Object α) : List (List UInt16) :=
  (o.names.filter isIndex).insertionSort fun a b => (index? a).getD 0 ≤ (index? b).getD 0

/-- The keys that are no array indices, in their order. -/
def namedKeys (o : Object α) : List (List UInt16) := o.names.filter fun key => !isIndex key

/-- `Object.keys(o)` -/
def keys (o : Object α) : List (List UInt16) := o.indexKeys ++ o.namedKeys

/-- `Object.entries(o)` -/
def entries (o : Object α) : List (List UInt16 × α) :=
  o.keys.filterMap fun key => (o.get? key).map fun a => (key, a)

variable {o o' : Object α} {key key' : List UInt16} {a : α} {es : List (List UInt16 × α)}

/-! ### Assignments -/

theorem names_assign : (o.assign key a).names = if key ∈ o.names then o.names else o.names ++ [key] :=
  map_setProp key a o.props

@[simp] theorem get?_assign : (o.assign key a).get? key' = if key' = key then some a else o.get? key' :=
  lookup_setProp key key' a o.props

theorem get?_eq_none : o.get? key = none ↔ key ∉ o.names := by
  simp only [get?, names, List.lookup_eq_none_iff, List.mem_map, not_exists, not_and, bne_iff_ne]
  exact ⟨fun h e he hk => h e he hk.symm, fun h e he hk => h e he hk.symm⟩

/-- Assignments add the keys that are new. -/
theorem names_assignAll (h : (es.map Prod.fst).Nodup) :
    (o.assignAll es).names = o.names ++ (es.map Prod.fst).filter fun key => key ∉ o.names := by
  induction es generalizing o with
  | nil => exact (List.append_nil _).symm
  | cons e es ih =>
    obtain ⟨hne, hes⟩ := List.nodup_cons.1 h
    have hrest : (o.assign e.1 e.2).assignAll es = o.assignAll (e :: es) := rfl
    rw [← hrest, ih hes, names_assign, List.map_cons]
    by_cases he : e.1 ∈ o.names
    · rw [if_pos he, List.filter_cons_of_neg (by simpa using he)]
    · rw [if_neg he, List.filter_cons_of_pos (by simpa using he), List.append_assoc, List.singleton_append]
      congr 2
      refine List.filter_congr fun key hkey => ?_
      have hdiff : key ≠ e.1 := fun hk => hne (hk ▸ hkey)
      simp [hdiff]

theorem get?_assignAll (h : (es.map Prod.fst).Nodup) :
    (o.assignAll es).get? key = (es.lookup key).or (o.get? key) := by
  induction es generalizing o with
  | nil => rfl
  | cons e es ih =>
    obtain ⟨hne, hes⟩ := List.nodup_cons.1 h
    have hrest : (o.assign e.1 e.2).assignAll es = o.assignAll (e :: es) := rfl
    rw [← hrest, ih hes, get?_assign, lookup_prop]
    by_cases hk : key = e.1
    · have hnone : es.lookup key = none := List.lookup_eq_none_iff.2 fun e' he' =>
        bne_iff_ne.2 fun h' => hne (List.mem_map.2 ⟨e', he', by rw [← h', hk]⟩)
      rw [if_pos hk, if_pos hk, hnone]
      rfl
    · rw [if_neg hk, if_neg hk]

theorem get?_spread : (o.spread o').get? key = (o'.get? key).or (o.get? key) := get?_assignAll o'.nodup

/-- The properties that are not `null`. -/
def present (o : Object (Option α)) : List (List UInt16 × α) :=
  o.props.filterMap fun e => e.2.map fun a => (e.1, a)

theorem lookup_present (o : Object (Option α)) (key : List UInt16) :
    o.present.lookup key = (o.get? key).join := by
  obtain ⟨es, hes⟩ := o
  show (es.filterMap fun e => e.2.map fun a => (e.1, a)).lookup key = (es.lookup key).join
  induction es with
  | nil => rfl
  | cons e es ih =>
    obtain ⟨hne, hrest⟩ := List.nodup_cons.1 hes
    rw [lookup_prop, List.filterMap_cons]
    obtain ⟨k, _ | a⟩ := e
    · by_cases hk : key = k
      · have hnone : es.lookup key = none := List.lookup_eq_none_iff.2 fun e' he' =>
          bne_iff_ne.2 fun h' => hne (List.mem_map.2 ⟨e', he', by rw [← h', hk]⟩)
        rw [if_pos hk]
        exact (ih hrest).trans (by rw [hnone]; rfl)
      · rw [if_neg hk]
        exact ih hrest
    · by_cases hk : key = k
      · rw [if_pos hk]
        exact (lookup_prop key (k, a) _).trans (if_pos hk)
      · rw [if_neg hk]
        exact (lookup_prop key (k, a) _).trans ((if_neg hk).trans (ih hrest))

/-! ### Keys -/

theorem mem_keys : key ∈ o.keys ↔ key ∈ o.names := by
  simp only [keys, indexKeys, namedKeys, List.mem_append, List.mem_insertionSort, List.mem_filter]
  cases isIndex key <;> simp

theorem exists_get?_of_mem_keys (h : key ∈ o.keys) : ∃ a, o.get? key = some a :=
  Option.ne_none_iff_exists'.1 fun hnone => get?_eq_none.1 hnone (mem_keys.1 h)

theorem mem_entries {e : List UInt16 × α} : e ∈ o.entries ↔ e.1 ∈ o.keys ∧ o.get? e.1 = some e.2 := by
  simp only [entries, List.mem_filterMap, Option.map_eq_some_iff]
  constructor
  · rintro ⟨key, hkey, a, ha, rfl⟩
    exact ⟨hkey, ha⟩
  · rintro ⟨hkey, ha⟩
    exact ⟨e.1, hkey, e.2, ha, rfl⟩

theorem lookup_of_mem {e : List UInt16 × α} (hnodup : (es.map Prod.fst).Nodup) (he : e ∈ es) :
    es.lookup e.1 = some e.2 := by
  induction es with
  | nil => exact absurd he List.not_mem_nil
  | cons e' es ih =>
    obtain ⟨hne, hes⟩ := List.nodup_cons.1 hnodup
    rw [lookup_prop]
    rcases List.mem_cons.1 he with rfl | hin
    · rw [if_pos rfl]
    · have hkey : e.1 ≠ e'.1 := fun heq => hne (heq ▸ List.mem_map_of_mem hin)
      rw [if_neg hkey, ih hes hin]

/-- Without array indices the entries are in the order in which they were added. -/
theorem entries_of_named (h : ∀ key ∈ o.names, isIndex key = false) : o.entries = o.props := by
  have hindex : o.names.filter isIndex = [] := List.filter_eq_nil_iff.2 fun key hkey => by simp [h key hkey]
  have hnamed : o.names.filter (fun key => !isIndex key) = o.names :=
    List.filter_eq_self.2 fun key hkey => by simp [h key hkey]
  have hkeys : o.keys = o.names := by
    rw [keys, indexKeys, namedKeys, hindex, hnamed]
    rfl
  rw [entries, hkeys, names, List.filterMap_map]
  refine (List.filterMap_congr fun e he => ?_).trans List.filterMap_some
  exact congrArg (Option.map fun a => (e.1, a)) (lookup_of_mem o.nodup he)

/-- Properties that are assigned come after those that are there, array indices apart. -/
theorem keys_assignAll (hes : (es.map Prod.fst).Nodup)
    (hnamed : ∀ key ∈ es.map Prod.fst, isIndex key = false) :
    (o.assignAll es).keys = o.keys ++ (es.map Prod.fst).filter fun key => key ∉ o.names := by
  have hnew : ∀ key ∈ (es.map Prod.fst).filter fun key => key ∉ o.names, isIndex key = false :=
    fun key hkey => hnamed key (List.mem_filter.1 hkey).1
  have hindex : ((es.map Prod.fst).filter fun key => key ∉ o.names).filter isIndex = [] :=
    List.filter_eq_nil_iff.2 fun key hkey => by simp [hnew key hkey]
  have hrest : ((es.map Prod.fst).filter fun key => key ∉ o.names).filter (fun key => !isIndex key) =
      (es.map Prod.fst).filter fun key => key ∉ o.names :=
    List.filter_eq_self.2 fun key hkey => by simp [hnew key hkey]
  rw [keys, indexKeys, namedKeys, names_assignAll hes, List.filter_append, List.filter_append, hindex, hrest,
    List.append_nil, ← List.append_assoc]
  rfl

/-- Of an object without array indices the properties keep their places where another is spread into it, but
for the array indices of that one. -/
theorem keys_spread (hnamed : ∀ key ∈ o.names, isIndex key = false) :
    (o.spread o').keys = o'.indexKeys ++ (o.names ++ o'.namedKeys.filter fun key => key ∉ o.names) := by
  have hindex : o.names.filter isIndex = [] :=
    List.filter_eq_nil_iff.2 fun key hkey => by simp [hnamed key hkey]
  have hrest : o.names.filter (fun key => !isIndex key) = o.names :=
    List.filter_eq_self.2 fun key hkey => by simp [hnamed key hkey]
  have hnew : (o'.names.filter fun key => key ∉ o.names).filter isIndex = o'.names.filter isIndex := by
    rw [List.filter_filter]
    refine List.filter_congr fun key _ => ?_
    by_cases hkey : key ∈ o.names
    · simp [hkey, hnamed key hkey]
    · simp [hkey]
  rw [keys, indexKeys, namedKeys, spread, names_assignAll o'.nodup, List.filter_append,
    List.filter_append, hrest,
    hindex, List.nil_append]
  have hshow : o'.props.map Prod.fst = o'.names := rfl
  rw [hshow, hnew, List.filter_filter, namedKeys, List.filter_filter]
  congr 2
  exact List.filter_congr fun key _ => Bool.and_comm _ _

end Object

end Text
