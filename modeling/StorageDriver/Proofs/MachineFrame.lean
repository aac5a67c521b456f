import StorageDriver.Proofs.MachineEdits

namespace StorageDriver

/-- Nothing changed from `w` to `w'` but the document of the machine `id` on the plane of `host`. -/
def World.Spares (host id : String) (w w' : World Fleet) : Prop :=
  ∀ k i, ¬ (k = host ∧ i = id) → w'.document k i = w.document k i

theorem World.spares_of_eq {w w' : World Fleet} (h : w'.document = w.document) (host id : String) :
    w.Spares host id w' :=
  fun k i _ => congrFun (congrFun h k) i

section

variable {α : Type} {s : Setting} {w w' v : World Fleet} {target : String}
  {edit : VmInfo → VmInfo → Prop} {g : Stage}

/-- What every action that may be done keeps, a run keeps. -/
theorem Proc.Follows.runs {I : Stage → World Fleet → Prop} {post : Stage → α → Prop} {p : Proc α}
    {r : α} (hp : p.Follows target edit post g) (hr : p.Runs s w r v)
    (step : ∀ g w a x u, w.Proper → g.May target edit a → w.Performs s a x u → I g w →
      I (g.after a x) u)
    (hw : w.Proper) (hg : I g w) : v.Proper ∧ ∃ g', post g' r ∧ I g' v := by
  induction hr generalizing g with
  | done a w => exact ⟨hw, g, hp, hg⟩
  | act hx hr ih =>
    exact ih (hp.2 _ (hx.fits hw)) (hx.proper hw) (step _ _ _ _ _ hw hp.1 hx hg)

namespace Stage

/-- Nothing changed from `w` to `w'`, and what is held is from `w`. -/
structure Reads (w : World Fleet) (g : Stage) (w' : World Fleet) : Prop where
  same : w'.document = w.document
  held : ∀ host i, g = .holding host i → w.document host i.id = some i

theorem Reads.performs (hg : g.Reads w w') (hw : w'.Proper) {a : Action} {x : a.Answer}
    (hx : w'.Performs s a x v) (may : g.May target (fun _ _ => False) a) :
    (g.after a x).Reads w v := by
  have ha : a.accepted? x = none := by
    refine Option.eq_none_iff_forall_not_mem.2 fun doc hd => ?_
    obtain ⟨-, host, hp, -⟩ := hx.accepted hw hd
    obtain ⟨-, h, i, -, he⟩ := may host doc hp
    exact he
  refine ⟨(hx.unaccepted hw ha).2.trans hg.same, fun host i h => ?_⟩
  cases g with
  | seeking =>
    cases hf : a.fetched? x with
    | none =>
      simp only [after, hf] at h
      cases h
    | some p =>
      simp only [after, hf] at h
      obtain ⟨rfl, rfl⟩ := holding.inj h
      rw [← hg.same]
      exact hx.document_of_fetched hw hf
  | holding host' i' =>
    simp only [after, ha] at h
    exact hg.held host i h
  | changed host' i' doc => cases h

/-- Who holds `i` changed nothing yet, or put another document in its place on the plane of
`target`. -/
def Edits (target : String) (edit : VmInfo → VmInfo → Prop) (host : String) (i : VmInfo)
    (w : World Fleet) (g : Stage) (w' : World Fleet) : Prop :=
  g = .holding host i ∧ w'.document = w.document ∨
    ∃ doc, g = .changed host i doc ∧ edit i doc ∧ w.Spares target i.id w' ∧
      w'.document target i.id = some (Plane.kept doc)

theorem Edits.performs {host : String} {i : VmInfo} (ids : ∀ i doc, edit i doc → doc.id = i.id)
    (hg : g.Edits target edit host i w w') (hw : w'.Proper) {a : Action} {x : a.Answer}
    (hx : w'.Performs s a x v) (may : g.May target edit a) :
    (g.after a x).Edits target edit host i w v := by
  obtain ⟨rfl, hs⟩ | ⟨doc, rfl, he, hs, hd⟩ := hg
  · cases ha : a.accepted? x with
    | none =>
      refine .inl ⟨?_, (hx.unaccepted hw ha).2.trans hs⟩
      simp only [after, ha, Option.elim_none]
    | some doc =>
      obtain ⟨-, k, hp, hd, hk⟩ := hx.accepted hw ha
      obtain ⟨rfl, h, j, hj, he⟩ := may k doc hp
      obtain ⟨rfl, rfl⟩ := holding.inj hj
      rw [ids _ _ he] at hd hk
      refine .inr ⟨doc, ?_, he, fun l id hn => ?_, hd⟩
      · simp only [after, ha, Option.elim_some]
      · rw [hk l id hn, hs]
  · have ha : a.accepted? x = none := by
      refine Option.eq_none_iff_forall_not_mem.2 fun doc' hd' => ?_
      obtain ⟨-, k, hp, -⟩ := hx.accepted hw hd'
      obtain ⟨-, h, j, hj, -⟩ := may k doc' hp
      cases hj
    have hsame := (hx.unaccepted hw ha).2
    refine .inr ⟨doc, rfl, he, fun l id hn => ?_, ?_⟩
    · rw [hsame]
      exact hs l id hn
    · rw [hsame]
      exact hd

end Stage

/-- To resolve a node changes no document, and what is found is there. -/
theorem Node.frame_machineOf (hw : w.Proper) {node : String} {r : Except Error VirtualMachine}
    (h : (machineOf node).Runs s w r v) :
    v.Proper ∧ v.document = w.document ∧ ∀ m, r = .ok m → w.document m.host m.id = some m.info := by
  have step : ∀ (g : Stage) (u : World Fleet) a x u', u.Proper → g.May "" (fun _ _ => False) a →
      u.Performs s a x u' → g.Reads w u → (g.after a x).Reads w u' :=
    fun g u a x u' hu may hx hg => hg.performs hu hx may
  obtain ⟨hp, g, hm, hg⟩ := (follows_machineOf node).runs h step hw ⟨rfl, nofun⟩
  exact ⟨hp, hg.same, fun m hr => hg.held m.host m.info (hm m hr)⟩

/-- A call changes no document but that of the machine whose document on the plane of `host` is
`i`, and if it succeeds that one is changed as `edit` says. -/
structure Touches (edit : VmInfo → VmInfo → Prop) (host : String) (i : VmInfo) (w : World Fleet)
    (x : Except Error α × World Fleet) : Prop where
  spares : w.Spares host i.id x.2
  edited : ∀ a, x.1 = .ok a →
    ∃ doc, edit i doc ∧ x.2.document host i.id = some (Plane.kept doc)

theorem Touches.elsewhere {host : String} {i : VmInfo} {x : Except Error α × World Fleet}
    (h : Touches edit target i w x) (hd : w.document host i.id = some i) (hh : host ≠ target)
    (he : ∀ doc, edit i doc → Plane.kept doc ≠ i) {a : α} (hx : x.1 = .ok a) :
    ¬ Touches edit host i w x := by
  intro h'
  obtain ⟨doc, hdoc, hk⟩ := h'.edited a hx
  have hs := h.spares host i.id fun ha => hh ha.1
  rw [hd, hk] at hs
  exact he doc hdoc (Option.some.inj hs)

namespace Csi

variable {f : VirtualMachine → Attempt α} {node id : String} {m : VirtualMachine}
  {r : Except Error α}

theorem execute_need (what text : String) (w : World Fleet) :
    (need what text).execute s w =
      (if text = "" then .error (.invalidArgument (what ++ " is empty")) else .ok (), w) := by
  unfold need
  split <;> rfl

/-- The call fails, and no document is changed. -/
def Fruitless (w : World Fleet) (r : Except Error α) (v : World Fleet) : Prop :=
  (∀ a, r ≠ .ok a) ∧ v.document = w.document

/-- Who does not find the machine of a node changes nothing. -/
theorem fruitless_or_runsOn (hw : w.Proper) (h : (onMachine id node f).Runs s w r v) :
    Fruitless w r v ∨ ∃ m, RunsOn s w node f m r v := by
  obtain ⟨⟨text, rfl⟩, rfl⟩ | ⟨e, rfl, hm⟩ | found := runs_onMachine h
  · exact .inl ⟨nofun, rfl⟩
  · exact .inl ⟨nofun, (Node.frame_machineOf hw hm).2.1⟩
  · exact .inr found

theorem Changes.touches (hf : Changes target edit f) (ids : ∀ i doc, edit i doc → doc.id = i.id)
    (hw : w.Proper) (h : RunsOn s w node f m r v) : Touches edit target m.info w (r, v) := by
  obtain ⟨u, hm, hr⟩ := h
  obtain ⟨hu, hd, -⟩ := Node.frame_machineOf hw hm
  have step : ∀ (g : Stage) (u : World Fleet) a x u', u.Proper → g.May target edit a →
      u.Performs s a x u' → g.Edits target edit m.host m.info w u →
      (g.after a x).Edits target edit m.host m.info w u' :=
    fun g u a x u' hu may hx hg => hg.performs ids hu hx may
  obtain ⟨-, g, hg, he⟩ := (hf m).runs hr step hu (.inl ⟨rfl, hd⟩)
  obtain ⟨rfl, hs⟩ | ⟨doc, rfl, hdoc, hs, hk⟩ := he
  · refine ⟨World.spares_of_eq hs _ _, fun a ha => ?_⟩
    obtain ⟨doc, hdoc⟩ := hg a ha
    cases hdoc
  · exact ⟨hs, fun _ _ => ⟨doc, hdoc, hk⟩⟩

/-- What a call that edits the machine `m` of a node on the plane of `target` comes to: if that is
where the machine lives, it touches the machine only. If not, it leaves the machine as it is and
spares all but the machine of that id on the plane of `target`. -/
structure Treats (target : String) (edit : VmInfo → VmInfo → Prop) (m : VirtualMachine)
    (w : World Fleet) (x : Except Error α × World Fleet) : Prop where
  document : w.document m.host m.id = some m.info
  here : m.host = target → Touches edit m.host m.info w x
  elsewhere : m.host ≠ target →
    w.Spares target m.id x.2 ∧ ∀ a, x.1 = .ok a → ¬ Touches edit m.host m.info w x

theorem Changes.treats (hf : Changes target edit f) (ids : ∀ i doc, edit i doc → doc.id = i.id)
    (hk : ∀ i doc, edit i doc → Plane.kept doc ≠ i) (hw : w.Proper)
    (h : RunsOn s w node f m r v) : Treats target edit m w (r, v) := by
  have touched := hf.touches ids hw h
  obtain ⟨u, hm, -⟩ := h
  have hd := (Node.frame_machineOf hw hm).2.2 m rfl
  exact ⟨hd, fun hh => hh ▸ touched,
    fun hh => ⟨touched.spares, fun a ha => touched.elsewhere hd hh (hk m.info) ha⟩⟩

/-- Whatever machine is found for a node is the only one to change when a volume is published to the
node or taken from it, provided that it lives on the plane of the volumes. If it does not, its own
document stays as it is, and what changes is the machine that has its id there. -/
theorem touches_machine_of_node (hw : w.Proper) (v : Volumes) (id node : String) :
    (∀ r w', (publish v id node).Runs s w r w' →
      Fruitless w r w' ∨ ∃ m, RunsOn s w node (attaching v id) m r w') ∧
    (∀ r w', (unpublish v id node).Runs s w r w' →
      Fruitless w r w' ∨ ∃ m, RunsOn s w node (v.detach · id) m r w') ∧
    ∀ m,
      (∀ r w', RunsOn s w node (attaching v id) m r w' →
        Treats v.host (VmInfo.Attaches id) m w (r, w')) ∧
      ∀ r w', RunsOn s w node (v.detach · id) m r w' →
        Treats v.host (VmInfo.Detaches id) m w (r, w') := by
  refine ⟨fun r w' h => fruitless_or_runsOn hw h, fun r w' h => fruitless_or_runsOn hw h,
    fun m => ⟨fun r w' h => ?_, fun r w' h => ?_⟩⟩
  · exact (changes_attaching v id).treats (fun _ _ => VmInfo.Attaches.id_eq)
      (fun _ _ => VmInfo.Attaches.kept_ne) hw h
  · exact (changes_detach v id).treats (fun _ _ => VmInfo.Detaches.id_eq)
      (fun _ _ => VmInfo.Detaches.kept_ne) hw h

end Csi

end

namespace Twins

def machine (host : String) (disks : List DiskInfo) : VmInfo where
  id := "vm-1"
  name := host
  uuid := host
  datacenter := "dc"
  disks := disks

def plane (host : String) (disks : List DiskInfo) : Plane where
  host := host
  datacenters := [{ id := "dc" }]
  machines := [machine host disks]
  nextId := 2

theorem numbers_plane (host : String) (disks : List DiskInfo) : (plane host disks).Numbers where
  nodup := List.pairwise_singleton _ _
  given _ hm := ⟨1, Nat.lt_succ_self 1, congrArg VmInfo.id (List.mem_singleton.1 hm)⟩

def found : VirtualMachine := .ofInfo ⟨"dc", "", "b"⟩ (machine "b" [.ofVolume { id := "vol-2" }])

def planes : List Plane := [plane "a" [], plane "b" found.info.disks]

def world : World Fleet where
  net := (Network.register { planes := .ofPlanes planes } (plane "a" []).config).register
    (plane "b" []).config
  nodes := { uuids := [("n", "b")], machines := [("b", found)] }

theorem proper_world : world.Proper := by
  have hp : ∀ p ∈ planes, p.Numbers := by
    intro p hp
    obtain rfl | hp := List.mem_cons.1 hp
    · exact numbers_plane _ _
    · obtain rfl := List.mem_singleton.1 hp
      exact numbers_plane _ _
  exact ((World.proper_of_planes hp world.nodes).register _).register _

end Twins

/-- The volume is taken from the machine on the wrong plane. -/
theorem Csi.touches_machine_of_node_twins : ∃ w',
    RunsOn {} Twins.world "n" (Volumes.detach { host := "a" } · "vol-2") Twins.found (.ok ()) w' ∧
      ¬ Touches (VmInfo.Detaches "vol-2") "b" Twins.found.info Twins.world
        (Except.ok (ε := Error) (), w') := by
  have hm : ((Node.machineOf "n").execute {} Twins.world).1 = .ok Twins.found := rfl
  have hx : ((Volumes.detach { host := "a" } Twins.found "vol-2").execute {}
      ((Node.machineOf "n").execute {} Twins.world).2).1 = .ok () := rfl
  obtain ⟨w', found⟩ : ∃ w', RunsOn {} Twins.world "n" (Volumes.detach { host := "a" } · "vol-2")
      Twins.found (.ok ()) w' :=
    ⟨_, _, Attempt.runs_of_execute (Prod.ext hm rfl), Attempt.runs_of_execute (Prod.ext hx rfl)⟩
  have hh : Twins.found.host ≠ "a" := by decide
  obtain ⟨-, -, treated⟩ :=
    touches_machine_of_node (s := {}) Twins.proper_world { host := "a" } "vol-2" "n"
  exact ⟨w', found, (((treated Twins.found).2 _ _ found).elsewhere hh).2 () rfl⟩

end StorageDriver
