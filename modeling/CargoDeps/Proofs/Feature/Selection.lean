import CargoDeps.Proofs.Feature.Activation

namespace CargoDeps

/-!
# Selections of features

What a selection activates depends on its members only: the search keeps what it has left between
one start and the next, but neither a node nor a cycle is hidden behind what has been left.  So two
selections together activate what each of them activates, and they meet a cycle if one of them does.
-/

/-- An activation tells of a cycle. -/
abbrev FeatureGraph.MeetsCycle
    (graph : FeatureGraph)
    (package : PackageId)
    (requested : List String)
    (chosen : EdgePredicate) : Prop :=
  ∃ cycle, graph.activate package requested chosen = .error (.walk (.cycle cycle))

namespace PackageGraph

variable {graph : PackageGraph} {chosen : EdgePredicate} {package : PackageId}
  {selection others : List String}

/-! ### Starts -/

/-- The starts of two selections together are those of each. -/
theorem mem_activationStarts_append
    {start : FeatureId} :
    start ∈ activationStarts package (selection ++ others) ↔
      start ∈ activationStarts package selection ∨ start ∈ activationStarts package others := by
  simp only [activationStarts, List.map_append, List.mem_cons, List.mem_append]
  tauto

theorem exists_start_append_iff
    {property : FeatureId → Prop} :
    (∃ start ∈ activationStarts package (selection ++ others), property start) ↔
      (∃ start ∈ activationStarts package selection, property start) ∨
        ∃ start ∈ activationStarts package others, property start := by
  simp only [mem_activationStarts_append, or_and_right, exists_or]

/-- Selections with the same members have the same starts. -/
theorem exists_start_congr
    (same : ∀ feature, feature ∈ others ↔ feature ∈ selection)
    {property : FeatureId → Prop} :
    (∃ start ∈ activationStarts package others, property start) ↔
      ∃ start ∈ activationStarts package selection, property start := by
  simp only [activationStarts, List.mem_cons, List.mem_map, same]

/-! ### Outcomes -/

section Accepted

variable
  (known : package ∈ graph.ids)
  (accepted : ∀ feature ∈ selection, graph.Accepts package feature)
include known accepted

/-- Selections with the same members activate the same. -/
theorem activate_congr
    (same : ∀ feature, feature ∈ others ↔ feature ∈ selection) :
    (graph.featureGraph.MeetsCycle package others chosen ∧
        graph.featureGraph.MeetsCycle package selection chosen) ∨
      ∃ ids,
        graph.featureGraph.activate package others chosen = .ok ids ∧
          graph.featureGraph.activate package selection chosen = .ok ids := by
  have othersAccepted : ∀ feature ∈ others, graph.Accepts package feature :=
    fun feature member => accepted feature ((same feature).mp member)
  have sameCycles :
      graph.featureGraph.MeetsCycle package others chosen ↔
        graph.featureGraph.MeetsCycle package selection chosen := by
    rw [FeatureGraph.MeetsCycle, activate_cycle_iff known othersAccepted, exists_start_congr same,
      ← activate_cycle_iff known accepted]
  by_cases meets : graph.featureGraph.MeetsCycle package selection chosen
  · exact Or.inl ⟨sameCycles.mpr meets, meets⟩
  · obtain ⟨ids, returns⟩ := (activate_ok_or_cycle known accepted).resolve_right meets
    obtain ⟨otherIds, othersReturn⟩ :=
      (activate_ok_or_cycle known othersAccepted).resolve_right (mt sameCycles.mp meets)
    have sameIds : otherIds = ids := by
      apply (FeatureGraph.pairwise_lt_of_activate othersReturn).eq_of_mem_iff
        (FeatureGraph.pairwise_lt_of_activate returns)
      intro node
      rw [mem_activate_iff known othersAccepted othersReturn, exists_start_congr same,
        ← mem_activate_iff known accepted returns]
    exact Or.inr ⟨ids, sameIds ▸ othersReturn, returns⟩

variable
  (othersAccepted : ∀ feature ∈ others, graph.Accepts package feature)
include othersAccepted

omit known in
theorem accepted_append :
    ∀ feature ∈ selection ++ others, graph.Accepts package feature :=
  List.forall_mem_append.mpr ⟨accepted, othersAccepted⟩

/-- Two selections together meet a cycle if one of them does. -/
theorem meetsCycle_append_iff :
    graph.featureGraph.MeetsCycle package (selection ++ others) chosen ↔
      graph.featureGraph.MeetsCycle package selection chosen ∨
        graph.featureGraph.MeetsCycle package others chosen := by
  rw [FeatureGraph.MeetsCycle, activate_cycle_iff known (accepted_append accepted othersAccepted),
    exists_start_append_iff, ← activate_cycle_iff known accepted,
    ← activate_cycle_iff known othersAccepted]

/-- Where neither selection meets a cycle, they activate together what each of them does. -/
theorem exists_activate_append
    (meetsNone : ¬graph.featureGraph.MeetsCycle package (selection ++ others) chosen) :
    ∃ union ids otherIds,
      graph.featureGraph.activate package (selection ++ others) chosen = .ok union ∧
        graph.featureGraph.activate package selection chosen = .ok ids ∧
          graph.featureGraph.activate package others chosen = .ok otherIds ∧
            {node | node ∈ union} = {node | node ∈ ids} ∪ {node | node ∈ otherIds} := by
  have allAccepted := accepted_append accepted othersAccepted
  obtain ⟨meetsNot, othersMeetNot⟩ :=
    not_or.mp (mt (meetsCycle_append_iff known accepted othersAccepted).mpr meetsNone)
  obtain ⟨union, unionReturns⟩ := (activate_ok_or_cycle known allAccepted).resolve_right meetsNone
  obtain ⟨ids, returns⟩ := (activate_ok_or_cycle known accepted).resolve_right meetsNot
  obtain ⟨otherIds, othersReturn⟩ :=
    (activate_ok_or_cycle known othersAccepted).resolve_right othersMeetNot
  refine ⟨union, ids, otherIds, unionReturns, returns, othersReturn, ?_⟩
  ext node
  simp only [Set.mem_union, Set.mem_ofPred_eq, mem_activate_iff known allAccepted unionReturns,
    mem_activate_iff known accepted returns, mem_activate_iff known othersAccepted othersReturn,
    exists_start_append_iff]

end Accepted

/--
Two selections of accepted features together meet a cycle exactly if one of them does, and else
activate the union of what each of them activates.  To rearrange a selection or to repeat features
in it changes neither what is activated nor whether a cycle is met.
-/
theorem activate_additive
    (graph : PackageGraph)
    (package : PackageId)
    (selection others : List String)
    (chosen : EdgePredicate)
    (known : package ∈ graph.ids)
    (accepted : ∀ feature ∈ selection, graph.Accepts package feature)
    (othersAccepted : ∀ feature ∈ others, graph.Accepts package feature) :
    (graph.featureGraph.MeetsCycle package (selection ++ others) chosen ↔
      graph.featureGraph.MeetsCycle package selection chosen ∨
        graph.featureGraph.MeetsCycle package others chosen) ∧
    (graph.featureGraph.MeetsCycle package (selection ++ others) chosen ∨
      ∃ union ids otherIds,
        graph.featureGraph.activate package (selection ++ others) chosen = .ok union ∧
          graph.featureGraph.activate package selection chosen = .ok ids ∧
            graph.featureGraph.activate package others chosen = .ok otherIds ∧
              {node | node ∈ union} = {node | node ∈ ids} ∪ {node | node ∈ otherIds}) ∧
    ∀ rearranged : List String,
      (∀ feature, feature ∈ rearranged ↔ feature ∈ selection) →
      (graph.featureGraph.MeetsCycle package rearranged chosen ∧
          graph.featureGraph.MeetsCycle package selection chosen) ∨
        ∃ ids,
          graph.featureGraph.activate package rearranged chosen = .ok ids ∧
            graph.featureGraph.activate package selection chosen = .ok ids := by
  refine ⟨meetsCycle_append_iff known accepted othersAccepted, ?_, ?_⟩
  · apply or_iff_not_imp_left.mpr
    exact exists_activate_append known accepted othersAccepted
  · intro rearranged same
    exact activate_congr known accepted same

/-- `std` and `log` together activate what each of them does, and `std` twice what it does once. -/
theorem activate_additive_logging :
    let activate (requested : List String) :=
      Logging.sample.featureGraph.activate Logging.server requested .everything
    Logging.server ∈ Logging.sample.ids ∧
      (∀ feature ∈ ["std"], Logging.sample.Accepts Logging.server feature) ∧
      (∀ feature ∈ ["log"], Logging.sample.Accepts Logging.server feature) ∧
      (∃ union ids otherIds,
        activate (["std"] ++ ["log"]) = .ok union ∧
          activate ["std"] = .ok ids ∧
            activate ["log"] = .ok otherIds ∧
              {node | node ∈ union} = {node | node ∈ ids} ∪ {node | node ∈ otherIds}) ∧
      ∃ ids, activate ["std", "std"] = .ok ids ∧ activate ["std"] = .ok ids := by
  intro activate
  have known : Logging.server ∈ Logging.sample.ids := by
    decide
  have accepted : ∀ feature ∈ ["std"], Logging.sample.Accepts Logging.server feature := by
    intro feature member
    obtain rfl : feature = "std" := List.mem_singleton.mp member
    exact isRequestable_iff.mp (by decide +kernel)
  have othersAccepted : ∀ feature ∈ ["log"], Logging.sample.Accepts Logging.server feature := by
    intro feature member
    obtain rfl : feature = "log" := List.mem_singleton.mp member
    exact isRequestable_iff.mp (by decide +kernel)
  have meetsNone :
      ¬Logging.sample.featureGraph.MeetsCycle Logging.server ["std", "log"] .everything := by
    intro meets
    obtain ⟨cycle, fails⟩ := meets
    have returns :
        (Logging.sample.featureGraph.activate Logging.server ["std", "log"]
          .everything).isOk = true := by
      decide +kernel
    rw [fails] at returns
    cases returns
  obtain ⟨together, union, rearranged⟩ :=
    activate_additive Logging.sample Logging.server ["std"] ["log"] .everything known accepted
      othersAccepted
  have meetsNot := (not_or.mp (mt together.mpr meetsNone)).1
  have same : ∀ feature, feature ∈ ["std", "std"] ↔ feature ∈ ["std"] := by
    simp
  exact ⟨known, accepted, othersAccepted, union.resolve_left meetsNone,
    (rearranged ["std", "std"] same).resolve_left fun meets => meetsNot meets.2⟩

end PackageGraph

end CargoDeps
