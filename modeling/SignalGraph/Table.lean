/-!
# Tables in insertion order

A table maps keys to values and keeps its entries in the order in which their keys were first set. Setting a
present key replaces its value in place; erasing a key leaves the order of the others. That no key occurs
twice is part of the type.
-/

namespace SignalGraph

universe u v w

/-- Entries with distinct keys, in insertion order. -/
structure Table (κ : Type u) (ν : Type v) where
  entries : List (κ × ν) := []
  nodup : (entries.map Prod.fst).Nodup := by simp
deriving DecidableEq

namespace Table

variable {κ : Type u} {ν : Type v}

instance : EmptyCollection (Table κ ν) := ⟨{}⟩
instance : Inhabited (Table κ ν) := ⟨∅⟩

/-- The keys in insertion order. -/
def keys (t : Table κ ν) : List κ := t.entries.map Prod.fst

/-- The values in the order of their keys. -/
def values (t : Table κ ν) : List ν := t.entries.map Prod.snd

def size (t : Table κ ν) : Nat := t.entries.length

def isEmpty (t : Table κ ν) : Bool := t.entries.isEmpty

/-- Apply a function to every value. -/
def mapValues {ω : Type w} (t : Table κ ν) (f : κ → ν → ω) : Table κ ω where
  entries := t.entries.map fun e => (e.1, f e.1 e.2)
  nodup := by
    rw [List.map_map]
    exact t.nodup

variable [DecidableEq κ]

/-- The value of a key, if there is one. -/
def get? (t : Table κ ν) (k : κ) : Option ν :=
  (t.entries.find? fun e => e.1 == k).map Prod.snd

/-- Whether a key has a value. -/
def contains (t : Table κ ν) (k : κ) : Bool := t.entries.any fun e => e.1 == k

/-- Replace the value of a key by a function of it. -/
def modify (t : Table κ ν) (k : κ) (f : ν → ν) : Table κ ν where
  entries := t.entries.map fun e => if e.1 = k then (e.1, f e.2) else e
  nodup := by
    have h : (Prod.fst ∘ fun e : κ × ν => if e.1 = k then (e.1, f e.2) else e) = Prod.fst := by
      funext e
      simp only [Function.comp_apply]
      split <;> rfl
    rw [List.map_map, h]
    exact t.nodup

def erase (t : Table κ ν) (k : κ) : Table κ ν where
  entries := t.entries.filter fun e => e.1 ≠ k
  nodup := t.nodup.sublist (List.filter_sublist.map Prod.fst)

/-- Give a key a value, in place if it has one already and at the end otherwise. -/
def set (t : Table κ ν) (k : κ) (v : ν) : Table κ ν :=
  if h : t.contains k then t.modify k fun _ => v
  else {
    entries := t.entries ++ [(k, v)]
    nodup := by
      rw [List.map_append]
      refine List.nodup_append.2 ⟨t.nodup, by simp, ?_⟩
      intro a ha b hb hab
      obtain ⟨e, he, rfl⟩ := List.mem_map.1 ha
      rw [List.map_cons, List.map_nil, List.mem_singleton] at hb
      exact h (List.any_eq_true.2 ⟨e, he, by simp [hab, hb]⟩) }

/-- Set entries one after the other. -/
def setAll (t : Table κ ν) (es : List (κ × ν)) : Table κ ν :=
  es.foldl (fun t e => t.set e.1 e.2) t

/-- The table of a list of entries, where a later one wins. -/
def ofList (es : List (κ × ν)) : Table κ ν := setAll ∅ es

end Table

end SignalGraph
