import StorageDriver.Cli.Report
import StorageDriver.Proofs.SteadyDrivers

namespace StorageDriver

open Cli

variable {s : Scene} {n m : Nodes}

namespace Cli

def shown : Except Error VirtualMachine → Except Failure (Option Json)
  | .ok v => .ok (some (summary v))
  | .error e => .error { cause := e }

/-- What registering a node comes to. A node without a UUID may be missed. -/
def ensured (x : NodeName) : Except Error VirtualMachine → Except Failure Unit
  | .ok _ => .ok ()
  | .error e =>
    if e.isMiss && x.uuid = "" then .ok ()
    else .error { purpose := some s!"failed to register node {x.name}", cause := e }

end Cli

namespace Scene

/-- What the search for a node may come to, by its UUID or else by its name. -/
def Meets (s : Scene) (x : NodeName) : Except Error VirtualMachine → Prop :=
  s.Finds ⟨x.name, x.uuid⟩

/-- What `m` becomes of `n` when the nodes are registered one after another. -/
inductive Enters (s : Scene) : List NodeName → Nodes → Nodes → Prop
  | nil (n : Nodes) : Enters s [] n n
  | cons {x : NodeName} {xs : List NodeName} {n m : Nodes} {f : Except Error VirtualMachine}
      (hf : s.Meets x f) (h : Enters s xs (n.entered x.name x.uuid f) m) : Enters s (x :: xs) n m

/-- What may be shown of a node, after what the search for it came to. -/
inductive Displays (s : Scene) (x : NodeName) :
    Except Error VirtualMachine → Except Failure (Option Json) → Prop
  | renewed (v : VirtualMachine) : Displays s x (.ok v) (shown (s.renews v))
  | refused {e : Error} {f : Failure} (h : ensured x (.error e) = .error f) :
    Displays s x (.error e) (.error f)
  | unknown {e e' : Error} (h : ensured x (.error e) = .ok ())
      (hu : s.fetches x.name = .error e') : Displays s x (.error e) (.error { cause := e' })
  | sought {e : Error} {uuid : String} {f : Except Error VirtualMachine}
      (h : ensured x (.error e) = .ok ()) (hu : s.fetches x.name = .ok uuid)
      (hf : s.Finds ⟨x.name, uuid⟩ f) : Displays s x (.error e) (shown f)

end Scene

namespace Cli

open Attempt

theorem renews_of_displays {x : NodeName} {v : VirtualMachine} {r : Except Failure (Option Json)}
    (h : s.Displays x (.ok v) r) : r = shown (s.renews v) := by
  cases h
  rfl

theorem passes_of_ensured {x : NodeName} {e : Error} (h : ensured x (.error e) = .ok ()) :
    e.isMiss = true ∧ x.uuid = "" := by
  by_contra hx
  have refused : (e.isMiss && decide (x.uuid = "")) = false := by
    rw [← Bool.not_eq_true, Bool.and_eq_true, decide_eq_true_iff]
    exact hx
  simp [ensured, refused] at h

theorem run_shown (p : Attempt VirtualMachine) :
    (do return some (summary (← act p)) : Act (Option Json)).run =
      p.run.bind fun r => .done (shown r) := by
  rw [run_bind]
  refine (Proc.bind_assoc _ _ _).trans (congrArg p.run.bind (funext fun r => ?_))
  cases r <;> rfl

theorem branches_ensure {x : NodeName} (hn : n.uuids.get? x.name = none) :
    s.Branches (ensure x) n (s.Meets x) (ensured x) (n.entered x.name x.uuid) := by
  have registered : s.Branches (ExceptT.lift (Node.register x.uuid x.name).run : Act _) n
      (s.Meets x) (fun f => .ok (f.map fun _ => ())) (n.entered x.name x.uuid) :=
    Scene.Plays.branch (Node.branches_register hn) fun _ _ => Scene.plays_done _
  refine registered.bind (fun f r hf hr => ?_) fun f e hf he => nomatch he
  obtain rfl := Except.ok.inj hr
  cases f with
  | ok v => exact yields_pure ()
  | error e =>
    simp only [Except.map, ensured]
    split
    · exact yields_pure ()
    · exact yields_throw _

theorem answers_shown {p : Attempt VirtualMachine} {P : Except Error VirtualMachine → Prop}
    (h : s.Answers p.run n P) :
    s.Answers (do return some (summary (← act p)) : Act (Option Json)).run n
      fun r => ∃ f, P f ∧ r = shown f := by
  rw [run_shown]
  exact h.map shown

theorem answers_get {x : NodeName} (identified : ∀ v, s.Meets x (.ok v) → v.uuid ≠ "")
    (volumes : Volumes) : s.Answers ((Command.nodesGet x).run volumes).run {}
      fun r => ∃ f, s.Meets x f ∧ s.Displays x f r := by
  show s.Answers (ensure x >>= fun _ => _).run {} _
  rw [run_bind]
  refine Scene.Plays.answers_branch (branches_ensure rfl) fun f hf => ?_
  cases f with
  | ok v =>
    have known : (({} : Nodes).entered x.name x.uuid (.ok v)).uuids.get? x.name = some v.uuid := by
      simp [Nodes.entered]
    have kept : (({} : Nodes).entered x.name x.uuid (.ok v)).machines.get? v.uuid = some v := by
      simp [Nodes.entered]
    refine (answers_shown (Node.answers_machineOf known (identified v hf) kept)).congr fun r => ?_
    constructor
    · rintro ⟨f, rfl, rfl⟩
      exact .renewed v
    · rintro ⟨⟩
      exact ⟨_, rfl, rfl⟩
  | error e =>
    cases hx : ensured x (.error e) with
    | error g =>
      refine (Scene.plays_done _).answers.congr fun r => ?_
      constructor
      · rintro ⟨m, rfl, -⟩
        exact .refused hx
      · rintro (_ | h | h | h)
        · cases hx.symm.trans h
          exact ⟨_, rfl, rfl⟩
        · cases hx.symm.trans h
        · cases hx.symm.trans h
    | ok u =>
      have blank : (({} : Nodes).entered x.name x.uuid (.error e)).uuids.get? x.name = some "" := by
        simp [Nodes.entered, (passes_of_ensured hx).2]
      refine (answers_shown (Node.answers_machineOf_blank blank rfl)).congr fun r => ?_
      constructor
      · rintro ⟨f, ⟨e', hu, rfl⟩ | ⟨uuid, hu, hf⟩, rfl⟩
        · exact .unknown hx hu
        · exact .sought hx hu hf
      · rintro (_ | h | ⟨-, hu⟩ | ⟨-, hu, hf⟩)
        · cases hx.symm.trans h
        · exact ⟨_, .inl ⟨_, hu, rfl⟩, rfl⟩
        · exact ⟨_, .inr ⟨_, hu, hf⟩, rfl⟩

theorem branches_ensureAll {xs : List NodeName} (distinct : (xs.map (·.name)).Nodup)
    (passes : ∀ x ∈ xs, ∀ f, s.Meets x f → ensured x f = .ok ()) {n : Nodes}
    (fresh : ∀ x ∈ xs, n.uuids.get? x.name = none) :
    s.Branches (ensureAll xs) n (s.Enters xs n) (fun _ => .ok ()) id := by
  induction xs generalizing n with
  | nil =>
    refine Scene.Plays.congr (yields_pure ()) fun r m => ?_
    constructor
    · rintro ⟨rfl, rfl⟩
      exact ⟨_, .nil _, rfl, rfl⟩
    · rintro ⟨m, ⟨⟩, rfl, rfl⟩
      exact ⟨rfl, rfl⟩
  | cons x xs ih =>
    obtain ⟨hx, distinct⟩ := List.nodup_cons.1 distinct
    have later (f : Except Error VirtualMachine) :
        ∀ y ∈ xs, (n.entered x.name x.uuid f).uuids.get? y.name = none := by
      intro y hy
      have hne : x.name ≠ y.name := fun he => hx (List.mem_map.2 ⟨y, hy, he.symm⟩)
      have hy := fresh y (List.mem_cons_of_mem _ hy)
      cases f with
      | ok | error =>
        unfold Nodes.entered
        rw [Table.get?_put, if_neg hne, hy]
    unfold ensureAll
    rw [Scene.Branches, run_bind]
    refine (Scene.Plays.bind (branches_ensure (fresh x List.mem_cons_self))
      (R := fun _ k r m => ∃ i, s.Enters xs k i ∧ r = .ok () ∧ m = i) fun a k ha => ?_).congr
      fun r m => ?_
    · obtain ⟨f, hf, rfl, rfl⟩ := ha
      rw [passes x List.mem_cons_self f hf]
      exact ih distinct (fun y hy => passes y (List.mem_cons_of_mem _ hy)) (later f)
    · constructor
      · rintro ⟨a, k, ⟨f, hf, rfl, rfl⟩, i, hi, rfl, rfl⟩
        exact ⟨m, .cons hf hi, rfl, rfl⟩
      · rintro ⟨i, hi, rfl, rfl⟩
        cases hi with
        | cons hf hi => exact ⟨_, _, ⟨_, hf, rfl, rfl⟩, _, hi, rfl, rfl⟩

/-- All machines with which the nodes were entered are renewed. -/
theorem answers_list {xs : List NodeName} (distinct : (xs.map (·.name)).Nodup)
    (passes : ∀ x ∈ xs, ∀ f, s.Meets x f → ensured x f = .ok ())
    (renewed : ∀ m, s.Enters xs {} m → ∀ p ∈ m.machines, ∃ y, s.renews p.2 = .ok y)
    (volumes : Volumes) : s.Answers ((Command.nodesList xs).run volumes).run {}
      fun r => ∃ m, s.Enters xs {} m ∧ ∃ ys : List VirtualMachine,
        m.machines.map (fun p => s.renews p.2) = ys.map .ok ∧
        r = .ok (some (.array (ys.map summary))) := by
  show s.Answers (ensureAll xs >>= fun _ => _).run {} _
  rw [run_bind]
  refine Scene.Plays.answers_branch (branches_ensureAll distinct passes fun _ _ => rfl)
    fun m hm => ?_
  obtain ⟨ys, k, swept, hy⟩ := Node.yields_sweep (renewed m hm)
  have shown : s.Yields (act Node.sweep) m (.ok ys) k :=
    Scene.Plays.then swept (Scene.plays_done _)
  have listed : s.Yields (do return some (Json.array ((← act Node.sweep).map summary)) : Act _) m
      (.ok (some (.array (ys.map summary)))) k := shown.bind (yields_pure _)
  refine listed.answers.congr fun r => ⟨fun hr => ⟨ys, hy, hr⟩, ?_⟩
  rintro ⟨ys', hy', rfl⟩
  rw [(List.map_inj_right fun _ _ => Except.ok.inj).1 (hy.symm.trans hy')]

/-- What the machines are that nodes were entered with. -/
structure Gathered (s : Scene) (xs : List NodeName) (t : Table VirtualMachine) : Prop where
  distinct : (t.map (·.1)).Nodup
  met : ∀ p ∈ t, p.2.uuid = p.1 ∧ ∃ x ∈ xs, s.Meets x (.ok p.2)
  complete : ∀ x ∈ xs, (∃ v, s.Meets x (.ok v) ∧ v.uuid ∈ t.map (·.1)) ∨ ∃ e, s.Meets x (.error e)

theorem keys_entered {name uuid known : String} (h : known ∈ n.machines.map (·.1))
    (f : Except Error VirtualMachine) : known ∈ (n.entered name uuid f).machines.map (·.1) := by
  cases f with
  | ok v =>
    show known ∈ (n.machines.put v.uuid v).map (·.1)
    rw [Table.mem_keys, Table.get?_put]
    split
    · rfl
    · exact Table.mem_keys.1 h
  | error e => exact h

theorem key_entered (n : Nodes) (name uuid : String) (v : VirtualMachine) :
    v.uuid ∈ (n.entered name uuid (.ok v)).machines.map (·.1) := by
  show v.uuid ∈ (n.machines.put v.uuid v).map (·.1)
  rw [Table.mem_keys, Table.get?_put, if_pos rfl]
  rfl

theorem Gathered.enter {xs : List NodeName} (h : Gathered s xs n.machines) {x : NodeName}
    {f : Except Error VirtualMachine} (hf : s.Meets x f) :
    Gathered s (xs ++ [x]) (n.entered x.name x.uuid f).machines := by
  have before (p : String × VirtualMachine) (hp : p ∈ n.machines) :
      p.2.uuid = p.1 ∧ ∃ y ∈ xs ++ [x], s.Meets y (.ok p.2) := by
    obtain ⟨hu, y, hy, hv⟩ := h.met p hp
    exact ⟨hu, y, List.mem_append_left _ hy, hv⟩
  refine ⟨?_, fun p hp => ?_, fun y hy => ?_⟩
  · cases f with
    | ok v => exact Table.nodup_put h.distinct
    | error e => exact h.distinct
  · cases f with
    | ok v =>
      obtain rfl | hp := Table.mem_put hp
      · exact ⟨rfl, x, List.mem_concat_self, hf⟩
      · exact before p hp
    | error e => exact before p hp
  · obtain hy | hy := List.mem_append.1 hy
    · obtain ⟨v, hv, hk⟩ | missed := h.complete y hy
      · exact .inl ⟨v, hv, keys_entered hk f⟩
      · exact .inr missed
    · obtain rfl := List.mem_singleton.1 hy
      cases f with
      | ok v => exact .inl ⟨v, hf, key_entered n ..⟩
      | error e => exact .inr ⟨e, hf⟩

theorem Gathered.enters {before xs : List NodeName} (h : Gathered s before n.machines)
    (hm : s.Enters xs n m) : Gathered s (before ++ xs) m.machines := by
  induction hm generalizing before with
  | nil n => rwa [List.append_nil]
  | @cons x xs n m f hf _ ih =>
    have entered := ih (h.enter hf)
    rwa [List.append_assoc] at entered

theorem gathered {xs : List NodeName} (hm : s.Enters xs {} m) : Gathered s xs m.machines := by
  have none : Gathered s [] ({} : Nodes).machines := ⟨.nil, by simp, by simp⟩
  exact none.enters hm

theorem keys_enters {xs : List NodeName} (hm : s.Enters xs n m) {known : String}
    (h : known ∈ n.machines.map (·.1)) : known ∈ m.machines.map (·.1) := by
  induction hm with
  | nil n => exact h
  | cons hf _ ih => exact ih (keys_entered h _)

theorem exists_enters (xs : List NodeName) (n : Nodes) : ∃ m, s.Enters xs n m ∧
    ∀ x ∈ xs, ∀ v, s.Meets x (.ok v) → ∃ m, s.Enters xs n m ∧ v.uuid ∈ m.machines.map (·.1) := by
  induction xs generalizing n with
  | nil => exact ⟨n, .nil n, nofun⟩
  | cons y xs ih =>
    obtain ⟨f, u, hf⟩ := World.exists_awaits s.setting
      { net := s.begun : World Fleet } (.search ⟨y.name, y.uuid⟩)
    have hf : s.Meets y f := ⟨u, hf⟩
    obtain ⟨m, hm, found⟩ := ih (n.entered y.name y.uuid f)
    refine ⟨m, .cons hf hm, fun x hx v hv => ?_⟩
    obtain rfl | hx := List.mem_cons.1 hx
    · obtain ⟨m, hm, -⟩ := ih (n.entered x.name x.uuid (.ok v))
      exact ⟨m, .cons hv hm, keys_enters hm (key_entered n ..)⟩
    · obtain ⟨m, hm, hk⟩ := found x hx v hv
      exact ⟨m, .cons hf hm, hk⟩

namespace Gathered

variable {xs : List NodeName} {t : Table VirtualMachine} {ys : List VirtualMachine}
  (h : Gathered s xs t) (renewed : t.map (fun p => s.renews p.2) = ys.map .ok)
include h renewed

theorem uuids : ys.map (·.uuid) = t.map (·.1) := by
  have uuid (p : String × VirtualMachine) (hp : p ∈ t) :
      (s.renews p.2).toOption.map (·.uuid) = some p.1 := by
    have hr : s.renews p.2 ∈ ys.map Except.ok := renewed ▸ List.mem_map.2 ⟨p, hp, rfl⟩
    obtain ⟨y, -, hy⟩ := List.mem_map.1 hr
    rw [← hy]
    exact congrArg some ((Scene.uuid_of_renews hy.symm).trans (h.met p hp).1)
  have same := congrArg (List.map fun r => r.toOption.map VirtualMachine.uuid) renewed
  rw [List.map_map, List.map_map] at same
  have same : (t.map (·.1)).map some = (ys.map (·.uuid)).map some := by
    rw [List.map_map, List.map_map]
    exact (List.map_congr_left uuid).symm.trans same
  exact ((List.map_inj_right fun _ _ => Option.some.inj).1 same).symm

theorem exists_met {y : VirtualMachine} (hy : y ∈ ys) :
    ∃ x ∈ xs, ∃ v, s.Meets x (.ok v) ∧ s.renews v = .ok y := by
  have hr : Except.ok y ∈ t.map fun p => s.renews p.2 := renewed ▸ List.mem_map.2 ⟨y, hy, rfl⟩
  obtain ⟨p, hp, hr⟩ := List.mem_map.1 hr
  obtain ⟨-, x, hx, hm⟩ := h.met p hp
  exact ⟨x, hx, p.2, hm, hr⟩

/-- What may be missed is never found, so every node that may be found was. -/
theorem exists_renewed {x : NodeName} (hx : x ∈ xs)
    (missed : ∀ e, s.Meets x (.error e) → e.isMiss = true) {v : VirtualMachine}
    (hv : s.Meets x (.ok v)) : ∃ y ∈ ys, ∃ u, s.Meets x (.ok u) ∧ y.uuid = u.uuid := by
  obtain ⟨u, hu, hk⟩ | ⟨e, he⟩ := h.complete x hx
  · rw [← h.uuids renewed] at hk
    obtain ⟨y, hy, same⟩ := List.mem_map.1 hk
    exact ⟨y, hy, u, hu, same⟩
  · exact absurd hv (he.unfound (missed e he) v)

end Gathered

structure Start where
  config : Config
  insecure : Bool := false
  source : Option (String → Except Error String) := none
  planes : Fleet
  volumes : Volumes

namespace Start

def setting (d : Start) : Setting := d.config.setting d.source

def world (d : Start) : World Fleet := d.config.world d.insecure d.planes

/-- What a command may show, in whatever order the parties of its searches move. -/
def Shows (d : Start) (c : Command) (r : Except Failure (Option Json)) : Prop :=
  ∃ w, (c.run d.volumes).run.RunsBy (World.Awaits d.setting) d.world r w

/-- What a search for a node by what is known of it may come to, which is its UUID or its name. -/
def Finds (d : Start) (x : NodeName) (r : Except Error VirtualMachine) : Prop :=
  ∃ w, d.world.Awaits d.setting (.search ⟨x.name, x.uuid⟩) r w

def scene (d : Start) : Scene where
  setting := d.setting
  centers := d.world.net.centers.map (·.2.config)
  planes := d.planes

variable {d : Start} {x : NodeName}

theorem stands_world (d : Start) : d.world.net.Stands d.scene.centers d.planes := by
  suffices ∀ (cs : List Center.Config) (n : Network Fleet),
      n.Stands (n.centers.map (·.2.config)) d.planes →
      (cs.foldl Network.register n).Stands
        ((cs.foldl Network.register n).centers.map (·.2.config)) d.planes from
    this _ _ ⟨rfl, by simp, by simp, fun _ => rfl⟩
  intro cs
  induction cs with
  | nil => exact fun n hn => hn
  | cons c cs ih => exact fun n hn => ih _ (hn.register c)

theorem finds_iff {r : Except Error VirtualMachine} : d.Finds x r ↔ d.scene.Meets x r :=
  ⟨fun ⟨_, h⟩ => (Scene.finds_of_awaits (s := d.scene) d.stands_world h).1,
    fun h => Scene.awaits_of_finds (s := d.scene) d.stands_world h⟩

theorem shows_get (identified : ∀ v, d.scene.Meets x (.ok v) → v.uuid ≠ "")
    {r : Except Failure (Option Json)} : d.Shows (.nodesGet x) r ↔
      ∃ f, d.scene.Meets x f ∧ d.scene.Displays x f r :=
  answers_get identified d.volumes d.world d.stands_world rfl r

section

variable (got : ∀ r, d.Shows (.nodesGet x) r → ∃ j, r = .ok (some j))
  (identified : ∀ v, d.scene.Meets x (.ok v) → v.uuid ≠ "")
include got identified

theorem ensured_of_shows {f : Except Error VirtualMachine} (hf : d.scene.Meets x f) :
    ensured x f = .ok () := by
  cases f with
  | ok v => rfl
  | error e =>
    cases hx : ensured x (.error e) with
    | ok u => rfl
    | error g =>
      obtain ⟨j, hj⟩ := got _ ((shows_get identified).2 ⟨_, hf, .refused hx⟩)
      cases hj

theorem renews_of_shows {v : VirtualMachine} (hv : d.scene.Meets x (.ok v)) :
    ∃ y, d.scene.renews v = .ok y ∧ d.Shows (.nodesGet x) (.ok (some (summary y))) := by
  have shows := (shows_get identified).2 ⟨_, hv, .renewed v⟩
  obtain ⟨j, hj⟩ := got _ shows
  cases hr : d.scene.renews v with
  | error e =>
    rw [hr] at hj
    cases hj
  | ok y =>
    rw [hr] at shows
    exact ⟨y, rfl, shows⟩

theorem shows_cluster {e : Error} (he : d.scene.Meets x (.error e))
    {r : Except Failure (Option Json)} (hr : d.Shows (.nodesGet x) r) :
    ∃ y, d.setting.clusterUuid x.name = .ok y.uuid ∧ r = .ok (some (summary y)) := by
  have miss := (passes_of_ensured (ensured_of_shows got identified he)).1
  obtain ⟨j, hj⟩ := got r hr
  obtain ⟨f, hf, shown⟩ := (shows_get identified).1 hr
  cases shown with
  | renewed v => exact absurd hf (he.unfound miss v)
  | refused | unknown => cases hj
  | @sought e' uuid g _ hu hg =>
    obtain ⟨cluster, hne⟩ := Scene.cluster_of_fetches hu
    cases g with
    | error e => cases hj
    | ok y => exact ⟨y, (hg.uuid hne).symm ▸ cluster, rfl⟩

end

section

variable {xs : List NodeName} {t : Table VirtualMachine} {ys : List VirtualMachine}
  (got : ∀ x ∈ xs, ∀ r, d.Shows (.nodesGet x) r → ∃ j, r = .ok (some j))
  (identified : ∀ x ∈ xs, ∀ v, d.scene.Meets x (.ok v) → v.uuid ≠ "")
  (gathered : Gathered d.scene xs t) (renewed : t.map (fun p => d.scene.renews p.2) = ys.map .ok)
include got identified

theorem isMiss_of_shows (hx : x ∈ xs) {e : Error} (he : d.scene.Meets x (.error e)) :
    e.isMiss = true :=
  (passes_of_ensured (ensured_of_shows (got x hx) (identified x hx) he)).1

include gathered renewed

theorem shows_of_gathered {y : VirtualMachine} (hy : y ∈ ys) :
    ∃ x ∈ xs, ∃ v, d.scene.Meets x (.ok v) ∧ d.scene.renews v = .ok y ∧
      d.Shows (.nodesGet x) (.ok (some (summary y))) := by
  obtain ⟨x, hx, v, hv, hr⟩ := gathered.exists_met renewed hy
  obtain ⟨z, hz, shown⟩ := renews_of_shows (got x hx) (identified x hx) hv
  obtain rfl := Except.ok.inj (hr.symm.trans hz)
  exact ⟨x, hx, v, hv, hr, shown⟩

/-- A node that shares its machine with no other has the same machine in the list as alone. -/
theorem mem_of_shows (apart : ∀ x ∈ xs, ∀ x' ∈ xs, ∀ v v', d.scene.Meets x (.ok v) →
      d.scene.Meets x' (.ok v') → x = x' ∨ v.uuid = v'.uuid → v = v')
    (hx : x ∈ xs) {v : VirtualMachine} (hv : d.scene.Meets x (.ok v)) {j : Json}
    (shown : d.Shows (.nodesGet x) (.ok (some j))) : j ∈ ys.map summary := by
  have missed {e : Error} := isMiss_of_shows got identified hx (e := e)
  obtain ⟨f, hf, hd⟩ := (shows_get (identified x hx)).1 shown
  cases f with
  | error e => exact absurd hv (hf.unfound (missed hf) v)
  | ok u =>
    obtain ⟨y, hy, -⟩ := renews_of_shows (got x hx) (identified x hx) hf
    have hj := renews_of_displays hd
    rw [hy] at hj
    obtain rfl := Option.some.inj (Except.ok.inj hj)
    obtain ⟨z, hz, u', hu', same⟩ := gathered.exists_renewed renewed hx (fun _ => missed) hf
    obtain ⟨x', hx', v', hv', hr⟩ := gathered.exists_met renewed hz
    obtain rfl := apart x' hx' x hx v' u' hv' hu'
      (.inr ((Scene.uuid_of_renews hr).symm.trans same))
    obtain rfl := apart x hx x hx v' u hu' hf (.inl rfl)
    obtain rfl := Except.ok.inj (hy.symm.trans hr)
    exact List.mem_map.2 ⟨y, hz, rfl⟩

end

def pair : Start where
  config := { entries := [{ host := "a", user := "", password := "" }] }
  planes := [("a", {
    host := "a"
    datacenters := [{ id := "dc" }]
    machines := [
      { id := "vm-1", name := "m", uuid := "u", datacenter := "dc" },
      { id := "vm-2", name := "k", uuid := "v", datacenter := "dc" }] })]
  volumes := { host := "a" }

/-- One that is found by its name and one that is found by its UUID. -/
def couple : List NodeName := [⟨"m", ""⟩, ⟨"n", "v"⟩]

def sought (x : NodeName) : List VirtualMachine := pair.scene.candidates ⟨x.name, x.uuid⟩

theorem open_pair : pair.scene.Open := by
  have greets : pair.scene.centers.all (fun c =>
      (pair.scene.planes.greets pair.scene.centers c.host).isOk) = true := by decide +kernel
  have lists : pair.scene.centers.all (fun c =>
      (pair.scene.planes.lists pair.scene.centers c).isOk) = true := by decide +kernel
  have looks : pair.scene.centers.all (fun c => (pair.scene.planes.offered c).all fun d =>
      (pair.scene.planes.answers ⟨d.host, 0⟩ (.machines d.id)).isOk) = true := by decide +kernel
  exact ⟨List.all_eq_true.1 greets, List.all_eq_true.1 lists, fun c hc =>
    List.all_eq_true.1 (List.all_eq_true.1 looks c hc)⟩

theorem meets_pair (hx : x ∈ couple) {r : Except Error VirtualMachine}
    (hr : pair.scene.Meets x r) : ∃ v ∈ sought x, r = .ok v := by
  have named : couple.all (fun x => Query.isEmpty ⟨x.name, x.uuid⟩ = false) = true := by
    decide +kernel
  have some : couple.all (fun x => sought x ≠ []) = true := by decide +kernel
  have hq := of_decide_eq_true (List.all_eq_true.1 named x hx)
  have hs := of_decide_eq_true (List.all_eq_true.1 some x hx)
  obtain ⟨v, rfl⟩ := open_pair.finds_ok (by decide) hq hs hr
  exact ⟨v, hr.candidate.2, rfl⟩

theorem meets_pair_ok (hx : x ∈ couple) {v : VirtualMachine} (hv : pair.scene.Meets x (.ok v)) :
    v ∈ sought x := by
  obtain ⟨u, hu, he⟩ := meets_pair hx hv
  obtain rfl := Except.ok.inj he
  exact hu

theorem renews_pair (hx : x ∈ couple) {v : VirtualMachine} (hv : pair.scene.Meets x (.ok v)) :
    v.uuid ≠ "" ∧ ∃ y, pair.scene.renews v = .ok y := by
  have known : couple.all (fun x => (sought x).all fun v =>
      v.uuid ≠ "" && (pair.scene.renews v).toOption.isSome) = true := by decide +kernel
  obtain ⟨hne, hr⟩ := Bool.and_eq_true_iff.1
    (List.all_eq_true.1 (List.all_eq_true.1 known x hx) v (meets_pair_ok hx hv))
  obtain ⟨y, hy⟩ := Option.isSome_iff_exists.1 hr
  exact ⟨of_decide_eq_true hne, y, ok_of_toOption hy⟩

theorem apart_pair {x' : NodeName} (hx : x ∈ couple) (hx' : x' ∈ couple) {v v' : VirtualMachine}
    (hv : pair.scene.Meets x (.ok v)) (hv' : pair.scene.Meets x' (.ok v'))
    (alike : x = x' ∨ v.uuid = v'.uuid) : v = v' := by
  have apart : couple.all (fun x => couple.all fun x' => (sought x).all fun v =>
      (sought x').all fun v' => v = v' || (x ≠ x' && v.uuid ≠ v'.uuid)) = true := by
    decide +kernel
  have told := List.all_eq_true.1 (List.all_eq_true.1 apart x hx) x' hx'
  have told := List.all_eq_true.1 (List.all_eq_true.1 told v (meets_pair_ok hx hv)) v'
    (meets_pair_ok hx' hv')
  obtain same | differ := Bool.or_eq_true_iff.1 told
  · exact of_decide_eq_true same
  · obtain ⟨other, distinct⟩ := Bool.and_eq_true_iff.1 differ
    obtain same | same := alike
    · exact absurd same (of_decide_eq_true other)
    · exact absurd same (of_decide_eq_true distinct)

def twins : Start where
  config := { entries := [{ host := "a", user := "", password := "" }] }
  planes := [("a", {
    host := "a"
    datacenters := [{ id := "dc-1" }, { id := "dc-2" }]
    machines := [
      { id := "vm-1", name := "m", uuid := "u", datacenter := "dc-1" },
      { id := "vm-2", name := "m", uuid := "v", datacenter := "dc-2" }] })]
  volumes := { host := "a" }

/-- Two workers take a datacenter each. That of `first` is the first to be looked into. -/
def race (first : Nat) : List (Nat × Search.Move) :=
  let ms : List Search.Move := List.replicate 6 .producer ++ [.worker 0, .worker 1] ++
    List.replicate 3 (.worker first) ++
    [.result, .worker (1 - first), .worker 2, .worker 3, .fault, .result, .close]
  ms.map (0, ·)

def raced (first : Nat) : Option (Search.State Fleet × List Search.Event) :=
  (Search.start ⟨"m", ""⟩ twins.setting.pool false twins.world.net).follow (race first)

theorem finds_either : ∀ id ∈ ["vm-1", "vm-2"], ∃ v, twins.Finds ⟨"m", ""⟩ (.ok v) ∧ v.id = id := by
  have found (first : Nat) (id : String) (h : (raced first).any (fun p => p.1.phase = .done &&
      !p.1.abandoned && p.1.outcome.toOption.any (·.id = id)) = true) :
      ∃ v, twins.Finds ⟨"m", ""⟩ (.ok v) ∧ v.id = id := by
    obtain ⟨⟨t, es⟩, hf, ht⟩ := (Option.any_eq_true _ _).1 h
    obtain ⟨ht, ho⟩ := Bool.and_eq_true_iff.1 ht
    obtain ⟨hd, ha⟩ := Bool.and_eq_true_iff.1 ht
    obtain ⟨v, hv, hid⟩ := (Option.any_eq_true _ _).1 ho
    have found : twins.world.Awaits twins.setting (.search ⟨"m", ""⟩) t.outcome
        { twins.world with net := t.net } :=
      .search (by decide) hf (of_decide_eq_true hd) (by simpa using ha)
    exact ⟨v, ⟨_, ok_of_toOption hv ▸ found⟩, of_decide_eq_true hid⟩
  have first := found 0 "vm-1" (by decide +kernel)
  have second := found 1 "vm-2" (by decide +kernel)
  simp [first, second]

end Start

end Cli

end StorageDriver
