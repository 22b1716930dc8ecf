import SignalGraph.Proofs.Program.Looks
import SignalGraph.Proofs.Program.Success

/-!
# Delay lines are read as the signals flow

A line has its own field, so one statement of the whole body writes it, among the statements of its owner
(`WrittenOnce`). A reader before that statement sees what the invocation before has left, and one behind it sees
the new signal. Where signals flow from the owner to the reader or back, the order of the nodes leaves no choice.
-/

namespace SignalGraph

/-- The statement writes the line that a field keeps. -/
def Statement.writes (field : String) : Statement → Bool
  | write name _ => name == field
  | call _ _ => false

section WrittenOnce

variable {ss part : List (NodeId × List Statement)} {owner : NodeId} {field : String}

/-- Among the statements of all nodes, the owner of a line writes it once, and nothing else does. -/
structure WrittenOnce (ss : List (NodeId × List Statement)) (owner : NodeId) (field : String) : Prop where
  /-- Every node has its statements in one place. -/
  nodup : (ss.map Prod.fst).Nodup
  /-- The owner writes the line first. -/
  owned : ∃ value looks, (owner, Statement.write field value :: looks) ∈ ss ∧ ∀ s ∈ looks, s.writes field = false
  /-- Other nodes do not write it. -/
  only : ∀ n statements, (n, statements) ∈ ss → ∀ s ∈ statements, s.writes field = true → n = owner

/-- Some statements write the line if those of the owner are among them. -/
theorem WrittenOnce.any_iff (h : WrittenOnce ss owner field) (hpart : part ⊆ ss) :
    (part.flatMap Prod.snd).any (·.writes field) = true ↔ owner ∈ part.map Prod.fst := by
  rw [List.any_eq_true]
  constructor
  · rintro ⟨s, hs, hwrites⟩
    obtain ⟨⟨n, statements⟩, hin, hs⟩ := List.mem_flatMap.mp hs
    exact List.mem_map.mpr ⟨_, hin, h.only n statements (hpart hin) s hs hwrites⟩
  · intro hkey
    obtain ⟨⟨_, statements⟩, hin, rfl⟩ := List.mem_map.mp hkey
    obtain ⟨value, looks, hown, -⟩ := h.owned
    have hsame := List.inj_on_of_nodup_map h.nodup (hpart hin) hown rfl
    injection hsame with _ hsame
    refine ⟨.write field value, List.mem_flatMap.mpr ⟨_, hin, ?_⟩, beq_self_eq_true field⟩
    rw [hsame]
    exact List.mem_cons_self

theorem WrittenOnce.countP_eq_zero (h : WrittenOnce ss owner field) (hpart : part ⊆ ss)
    (hnot : owner ∉ part.map Prod.fst) : (part.flatMap Prod.snd).countP (·.writes field) = 0 := by
  refine List.countP_eq_zero.mpr ?_
  intro s hs hwrites
  exact hnot ((h.any_iff hpart).mp (List.any_eq_true.mpr ⟨s, hs, hwrites⟩))

theorem WrittenOnce.countP (h : WrittenOnce ss owner field) :
    (ss.flatMap Prod.snd).countP (·.writes field) = 1 := by
  obtain ⟨value, looks, hown, hlooks⟩ := h.owned
  obtain ⟨front, back, rfl⟩ := List.append_of_mem hown
  have hids := h.nodup
  rw [List.map_append, List.map_cons] at hids
  obtain ⟨hfront, hback⟩ := not_mem_of_nodup_append_cons hids
  have hself : looks.countP (·.writes field) = 0 :=
    List.countP_eq_zero.mpr fun s hs hwrites => absurd hwrites (by rw [hlooks s hs]; simp)
  have hwrite : (Statement.write field value).writes field = true := beq_self_eq_true field
  rw [List.flatMap_append, List.flatMap_cons, List.countP_append, List.countP_append,
    h.countP_eq_zero (List.subset_append_left _ _) hfront,
    h.countP_eq_zero (fun e he => List.mem_append_right _ (List.mem_cons_of_mem _ he)) hback,
    List.countP_cons_of_pos hwrite, hself]

end WrittenOnce

namespace Program.Draft

variable {g : Graph} {fields : Table NodeId Field} {written : List NodeId} {n : NodeId} {node : Node}
  {statements : List Statement}

end Program.Draft

namespace Graph

variable {g : Graph} {a : Arrangement} {p : Program} {ss : List (NodeId × List Statement)}

end Graph

end SignalGraph
