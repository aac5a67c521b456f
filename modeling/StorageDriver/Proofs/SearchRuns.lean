import StorageDriver.Proofs.NodeCache
import StorageDriver.Proofs.SearchEnd

namespace StorageDriver

namespace Search.State

variable {R : Type} {s : State R}

theorem mem_ready_worker {i : Nat} {w : Worker} (hw : s.workers[i]? = some w)
    (hd : w.due?.all (· ≤ s.net.clock) = true) : .worker i ∈ s.ready := by
  have hm : (w, i) ∈ s.workers.zipIdx := List.mem_zipIdx_iff_getElem?.2 hw
  simp only [ready, List.mem_append, List.mem_map, List.mem_filter]
  exact .inl (.inr ⟨(w, i), ⟨hm, hd⟩, rfl⟩)

theorem mem_timed {x : Nat × Move} : x ∈ s.timed none ↔
    ∃ i w, s.workers[i]? = some w ∧ w.due? = some x.1 ∧ x.2 = .worker i := by
  obtain ⟨due, m⟩ := x
  simp only [timed, Option.toList_none, List.map_nil, List.nil_append, List.mem_filterMap,
    Option.map_eq_some_iff, Prod.mk.injEq]
  constructor
  · rintro ⟨⟨w, i⟩, hw, d, hd, rfl, rfl⟩
    exact ⟨i, w, List.mem_zipIdx_iff_getElem?.1 hw, hd, rfl⟩
  · rintro ⟨i, w, hw, hd, rfl⟩
    exact ⟨(w, i), List.mem_zipIdx_iff_getElem?.2 hw, due, hd, rfl, rfl⟩

theorem mem_of_earliest {ms : List (Nat × Move)} {x : Nat × Move} (h : earliest ms = some x) :
    x ∈ ms :=
  List.mem_mergeSort.1 (List.mem_of_mem_head? h)

theorem exists_earliest {ms : List (Nat × Move)} {x : Nat × Move} (h : x ∈ ms) :
    ∃ y, earliest ms = some y := by
  cases he : earliest ms with
  | some y => exact ⟨y, rfl⟩
  | none =>
    have hm : x ∈ ms.mergeSort fun a b => a.1 ≤ b.1 := List.mem_mergeSort.2 h
    rw [List.head?_eq_none_iff.1 he] at hm
    cases hm

theorem exists_head (s : State R) : ∃ head : Nat,
    (∃ i : Nat, s.workers[i]? = some Worker.idle) → s.workers[head]? = some .idle := by
  by_cases hi : ∃ i : Nat, s.workers[i]? = some Worker.idle
  · exact ⟨hi.choose, fun _ => hi.choose_spec⟩
  · exact ⟨0, fun hx => absurd hx hi⟩

variable [Remote R] {t : State R} {pool : Nat}

theorem isSome_of_timed {x : Nat × Move} (hx : x ∈ s.timed none) (time : Nat) :
    ((s.wait time).step x.2).isSome = true := by
  obtain ⟨i, w, hw, hd, hm⟩ := mem_timed.1 hx
  rw [hm]
  show (s.workers[i]?.bind ((s.wait time).act i)).isSome = true
  rw [hw]
  cases w with
  | waiting => rfl
  | _ => cases hd

theorem step_of_next_none (h : s.next none = some t) :
    ∃ time m, m ≠ .abandon ∧ (s.wait time).step m = some t := by
  unfold next at h
  split at h
  · rename_i u hu
    obtain ⟨m, hm, hs⟩ := List.exists_of_findSome?_eq_some hu
    refine ⟨0, m, ?_, by rw [wait_zero, hs, h]⟩
    rintro rfl
    simp [ready] at hm
  · rw [ite_self] at h
    obtain ⟨⟨due, m⟩, hx, hs⟩ := Option.bind_eq_some_iff.1 h
    obtain ⟨i, w, -, -, rfl⟩ := mem_timed.1 (mem_of_earliest hx)
    exact ⟨due, .worker i, by simp, hs⟩

theorem abandoned_of_change {m : Move} {fs : List Event} (hm : m ≠ .abandon)
    (hc : Change s m fs t) : t.abandoned = s.abandoned := by
  cases hc <;> first | rfl | exact absurd rfl hm

theorem done_of_next (hb : Bounded pool s) (h : s.next none = none) : s.phase = .done := by
  refine Decidable.byContradiction fun hd => ?_
  unfold next at h
  split at h
  · cases h
  rename_i hr
  rw [ite_self] at h
  have stuck : ∀ m ∈ s.ready, s.step m = none := List.findSome?_eq_none_iff.1 hr
  obtain ⟨head, hh⟩ := s.exists_head
  obtain ⟨m, hm, hs⟩ := exists_admitted hb hd hh
  have waits : m ∉ s.ready := fun hm => by
    rw [stuck m hm] at hs
    cases hs
  cases m with
  | producer | result | fault | close => simp [ready] at waits
  | abandon => exact hm
  | worker i =>
    obtain ⟨w, hw, -⟩ := Option.bind_eq_some_iff.1 (Option.isSome_iff_exists.1 hs).choose_spec
    cases hd : w.due? with
    | none => exact waits (mem_ready_worker hw (by simp [hd]))
    | some due =>
      have hx : (due, .worker i) ∈ s.timed none := mem_timed.2 ⟨i, w, hw, hd, rfl⟩
      obtain ⟨x, he⟩ := exists_earliest hx
      have moves := isSome_of_timed (mem_of_earliest he) x.1
      rw [he, Option.bind_some] at h
      change (s.wait x.1).step x.2 = none at h
      rw [h] at moves
      cases moves

theorem ends_of_run (hb : Bounded pool s) :
    (s.run none).phase = .done ∧ (s.run none).abandoned = s.abandoned := by
  fun_induction State.run none s with
  | case1 s hs => exact ⟨done_of_next hb hs, rfl⟩
  | case2 s t hs ih =>
    obtain ⟨time, m, hm, ht⟩ := step_of_next_none hs
    have hc := change_of_step ht
    obtain ⟨hd, ha⟩ := ih ((hb.wait time).change hc)
    exact ⟨hd, ha.trans (abandoned_of_change (s := s.wait time) hm hc)⟩

def advanced (k : Nat) (s : State R) : State R := (fun s : State R => (s.next none).getD s)^[k] s

theorem next_of_quiet (ready : (s.ready.findSome? s.step).isNone = true)
    (timed : s.timed none = []) : s.next none = none := by
  simp [next, earliest, Option.isNone_iff_eq_none.1 ready, timed]

theorem execute_search {env : Setting} {q : Query} (hq : q.isEmpty = false) {w : World R}
    {t : State R} (k : Nat) (ht : advanced k (start q env.pool false w.net) = t)
    (hn : t.next none = none) :
    (Attempt.search q).execute env w = (t.outcome, { w with net := t.net }) := by
  have hr : (start q env.pool false w.net).run none = t := by
    rw [← run_advance none _ k]
    exact (congrArg (run none) ht).trans (run_of_none hn)
  have hs : Network.search env.pool .endless q w.net = (t.outcome, t.net) := by
    unfold Network.search
    rw [if_neg (by simp [hq]), ← hr]
    rfl
  exact congrArg (fun x : Except Error VirtualMachine × Network R => (x.1, { w with net := x.2 })) hs

end Search.State

namespace Node

open Attempt

variable {R : Type} [Remote R] {env : Setting} {w : World R} {n : Network R} {uuid name : String}
  {m : VirtualMachine}

theorem execute_register_first (hu : uuid ≠ "")
    (hs : ∀ nodes, (Attempt.search ⟨name, uuid⟩).execute env { w with nodes := nodes } =
      (.ok m, { net := n, nodes := nodes })) (hw : w.nodes = {}) :
    (register uuid name).execute env w = (.ok (), {
      net := n
      nodes := {
        uuids := [(name, uuid)]
        machines := [(uuid, m)]
        locks := [(name, 0)]
        made := [{}] } }) := by
  have entered (nodes : Nodes) (hn : nodes.uuids = []) (hm : nodes.machines = []) :
      (enter uuid name).execute env { w with nodes := nodes } = (.ok (), {
        net := n
        nodes := { nodes with uuids := [(name, uuid)], machines := [(uuid, m)] } }) := by
    unfold enter find
    rw [execute_nodes_bind]
    simp only [Nodes.apply, hn, hm, Table.get?_nil, Table.put]
    rw [bind_assoc, execute_bind, hs]
    dsimp only
    rw [bind_assoc, execute_nodes_bind, if_neg hu, pure_bind]
    simp only [Nodes.apply, Table.put, if_neg hu]
    rfl
  obtain ⟨net, nodes⟩ := w
  subst hw
  unfold register guarded
  rw [execute_nodes_bind, execute_nodes_bind, execute_outcome_bind, entered _ rfl rfl]
  rfl

end Node

end StorageDriver
