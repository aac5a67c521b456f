import Mathlib.Data.List.DropRight
import StorageDriver.Proofs.Configurations
import StorageDriver.Proofs.SearchOutcome
import StorageDriver.Proofs.SearchThorough

namespace StorageDriver

namespace Text

def Blank (cs : List Char) : Prop := ∀ c ∈ cs, isBlank c = true

instance (cs : List Char) : Decidable (Blank cs) :=
  decidable_of_iff (cs.all isBlank = true) List.all_eq_true

structure Trimmed (cs : List Char) : Prop where
  first : ∀ c ∈ cs.head?, isBlank c = false
  last : ∀ c ∈ cs.getLast?, isBlank c = false

variable {sep : Char} {cs before after : List Char}

theorem splitChars_eq_splitOn (sep : Char) (cs : List Char) :
    splitChars sep cs = cs.splitOn sep := by
  induction cs with
  | nil => rfl
  | cons c cs ih =>
    rw [splitChars, List.splitOn_cons_eq_if_modifyHead, ← ih]
    by_cases hc : c = sep
    · rw [if_pos hc, if_pos (by simpa using hc)]
    · rw [if_neg hc, if_neg (by simpa using hc)]
      cases hs : splitChars sep cs with
      | nil => exact absurd hs (splitChars_ne_nil sep cs)
      | cons p ps => rfl

theorem trimmed_trimChars (cs : List Char) : Trimmed (trimChars cs) where
  first c hc := by
    obtain ⟨rest, hr⟩ : trimChars cs <+: cs.dropWhile isBlank := List.rdropWhile_prefix isBlank _
    have hd := List.head?_dropWhile_not isBlank cs
    rw [← hr, List.head?_append_of_ne_nil _ (List.ne_nil_of_mem (List.mem_of_mem_head? hc)),
      hc] at hd
    exact hd
  last c hc := by
    have hn : trimChars cs ≠ [] := List.ne_nil_of_mem (List.mem_of_getLast? hc)
    rw [Option.mem_def, List.getLast?_eq_some_getLast hn, Option.some.injEq] at hc
    have hl := List.rdropWhile_last_not isBlank (cs.dropWhile isBlank) hn
    exact eq_false_of_ne_true (hc ▸ hl)

theorem exists_trimmed (cs : List Char) :
    ∃ before after, Blank before ∧ Blank after ∧ cs = before ++ trimChars cs ++ after := by
  refine ⟨cs.takeWhile isBlank, (cs.dropWhile isBlank).rtakeWhile isBlank,
    fun c hc => List.mem_takeWhile_imp hc, fun c hc => List.mem_rtakeWhile_imp hc, ?_⟩
  have front : cs = cs.takeWhile isBlank ++ cs.dropWhile isBlank :=
    List.takeWhile_append_dropWhile.symm
  have back : cs.dropWhile isBlank = trimChars cs ++ (cs.dropWhile isBlank).rtakeWhile isBlank :=
    List.rdropWhile_append_rtakeWhile.symm
  rw [List.append_assoc, ← back, ← front]

theorem trimChars_between (hb : Blank before) (ha : Blank after) (hc : Trimmed cs) (hn : cs ≠ []) :
    trimChars (before ++ cs ++ after) = cs := by
  have front : (cs ++ after).dropWhile isBlank = cs ++ after := by
    cases cs with
    | nil => exact absurd rfl hn
    | cons c cs => exact List.dropWhile_cons_of_neg (by rw [hc.first c rfl]; exact nofun)
  have back : cs.rdropWhile isBlank = cs := List.rdropWhile_eq_self_iff.2 fun hl => by
    rw [hc.last _ (List.getLast?_eq_some_getLast hl)]
    exact nofun
  rw [trimChars, List.append_assoc, List.dropWhile_append_of_pos hb, front, List.reverse_append,
    List.dropWhile_append_of_pos (fun c hc => ha c (List.mem_reverse.1 hc)),
    List.reverse_eq_iff.1 back, List.reverse_reverse]

end Text

namespace Center

structure IsEntry (p : String) : Prop where
  ne_empty : p ≠ ""
  no_comma : ',' ∉ p.toList
  trimmed : Text.Trimmed p.toList

def pieces (raw : String) : List String := (raw.toList.splitOn ',').map String.ofList

/-- The pieces name the entries in order, each with white space around it. Blank pieces name
none. -/
inductive Spaced : List String → List String → Prop
  | nil : Spaced [] []
  | blank {piece : String} {es ps : List String} (hp : Text.Blank piece.toList) (h : Spaced es ps) :
    Spaced es (piece :: ps)
  | entry {e before after : String} {es ps : List String} (hb : Text.Blank before.toList)
      (ha : Text.Blank after.toList) (h : Spaced es ps) :
    Spaced (e :: es) ((before ++ e ++ after) :: ps)

def item? (piece : String) : Option String :=
  if (Text.trimChars piece.toList).isEmpty then none else some (Text.trim piece)

variable {piece raw e before after : String} {es ps : List String}

theorem parsePaths_eq (raw : String) : parsePaths raw = (pieces raw).filterMap item? := by
  rw [parsePaths, pieces, Text.splitChars_eq_splitOn, List.filterMap_map, List.filterMap_map]
  refine List.filterMap_congr fun cs _ => ?_
  simp only [Function.comp_apply, item?, Text.trim, String.toList_ofList]

theorem item?_eq_none : item? piece = none ↔ Text.Blank piece.toList := by
  simp [item?, Text.trimChars_eq_nil, Text.Blank]

theorem item?_between (hb : Text.Blank before.toList) (ha : Text.Blank after.toList)
    (he : IsEntry e) : item? (before ++ e ++ after) = some e := by
  have hn : e.toList ≠ [] := fun h => he.ne_empty (String.toList_eq_nil_iff.1 h)
  have ht := Text.trimChars_between hb ha he.trimmed hn
  rw [item?, Text.trim, String.toList_append, String.toList_append, ht,
    if_neg (by simpa using he.ne_empty), String.ofList_toList]

theorem exists_of_item? (h : item? piece = some e) :
    ∃ before after, Text.Blank before.toList ∧ Text.Blank after.toList ∧
      piece = before ++ e ++ after := by
  obtain ⟨before, after, hb, ha, hp⟩ := Text.exists_trimmed piece.toList
  refine ⟨String.ofList before, String.ofList after, ?_, ?_, ?_⟩
  · rwa [String.toList_ofList]
  · rwa [String.toList_ofList]
  · rw [item?] at h
    split at h
    · cases h
    · rw [← Option.some.inj h, Text.trim, ← String.ofList_append, ← String.ofList_append, ← hp,
        String.ofList_toList]

theorem spaced_filterMap (ps : List String) : Spaced (ps.filterMap item?) ps := by
  induction ps with
  | nil => exact .nil
  | cons p ps ih =>
    cases hp : item? p with
    | none =>
      rw [List.filterMap_cons_none hp]
      exact .blank (item?_eq_none.1 hp) ih
    | some e =>
      obtain ⟨before, after, hb, ha, rfl⟩ := exists_of_item? hp
      rw [List.filterMap_cons_some hp]
      exact .entry hb ha ih

theorem Spaced.filterMap_eq (h : Spaced es ps) (he : ∀ e ∈ es, IsEntry e) :
    ps.filterMap item? = es := by
  induction h with
  | nil => rfl
  | blank hp _ ih =>
    rw [List.filterMap_cons_none (item?_eq_none.2 hp)]
    exact ih he
  | entry hb ha _ ih =>
    obtain ⟨here, there⟩ := List.forall_mem_cons.1 he
    rw [List.filterMap_cons_some (item?_between hb ha here), ih there]

theorem comma_not_mem_of_blank (h : Text.Blank piece.toList) : ',' ∉ piece.toList := by
  intro hc
  have := h _ hc
  revert this
  decide

theorem Spaced.no_comma (h : Spaced es ps) (he : ∀ e ∈ es, IsEntry e) :
    ∀ p ∈ ps, ',' ∉ p.toList := by
  induction h with
  | nil => exact nofun
  | blank hp _ ih => exact List.forall_mem_cons.2 ⟨comma_not_mem_of_blank hp, ih he⟩
  | entry hb ha _ ih =>
    obtain ⟨here, there⟩ := List.forall_mem_cons.1 he
    refine List.forall_mem_cons.2 ⟨?_, ih there⟩
    simp [comma_not_mem_of_blank hb, comma_not_mem_of_blank ha, here.no_comma]

theorem pieces_intercalate (hn : ps ≠ []) (hp : ∀ p ∈ ps, ',' ∉ p.toList) :
    pieces (",".intercalate ps) = ps := by
  have split : List.splitOn ',' ([','].intercalate (ps.map String.toList)) = ps.map String.toList :=
    List.splitOn_intercalate ',' (List.forall_mem_map.2 hp) (by simpa using hn)
  rw [pieces, String.toList_intercalate]
  change (List.splitOn ',' ([','].intercalate _)).map _ = _
  rw [split, List.map_map]
  simp only [Function.comp_def, String.ofList_toList, List.map_id']

theorem isEntry_of_mem_parsePaths {p : String} (h : p ∈ parsePaths raw) : IsEntry p := by
  rw [parsePaths_eq] at h
  obtain ⟨piece, hp, he⟩ := List.mem_filterMap.1 h
  obtain ⟨cs, hc, rfl⟩ := List.mem_map.1 hp
  rw [← Text.splitChars_eq_splitOn] at hc
  rw [item?] at he
  split at he
  · cases he
  · rename_i hn
    obtain rfl := Option.some.inj he
    obtain ⟨before, after, -, -, hb⟩ := Text.exists_trimmed cs
    rw [Text.trim, String.toList_ofList] at *
    refine ⟨fun hs => hn ?_, fun hm => ?_, ?_⟩
    · simpa using hs
    · rw [String.toList_ofList] at hm
      refine Text.not_mem_of_mem_splitChars hc ?_
      rw [hb]
      exact List.mem_append_left _ (List.mem_append_right _ hm)
    · rw [String.toList_ofList]
      exact Text.trimmed_trimChars cs

/-- A text names the entries that its pieces do, and no others. -/
theorem parsePaths_eq_iff :
    parsePaths raw = es ↔ (∀ e ∈ es, IsEntry e) ∧ Spaced es (pieces raw) := by
  constructor
  · rintro rfl
    exact ⟨fun _ => isEntry_of_mem_parsePaths, parsePaths_eq raw ▸ spaced_filterMap _⟩
  · rintro ⟨he, hs⟩
    rw [parsePaths_eq, hs.filterMap_eq he]

theorem parsePaths_intercalate (he : ∀ e ∈ es, IsEntry e) (h : Spaced es ps) :
    parsePaths (",".intercalate ps) = es := by
  by_cases hn : ps = []
  · subst hn
    cases h
    rfl
  · refine parsePaths_eq_iff.2 ⟨he, ?_⟩
    rwa [pieces_intercalate hn (h.no_comma he)]

theorem parsePaths_append (a b : String) :
    parsePaths (a ++ "," ++ b) = parsePaths a ++ parsePaths b := by
  have split : Text.splitChars ',' (a ++ "," ++ b).toList =
      Text.splitChars ',' a.toList ++ Text.splitChars ',' b.toList := by
    rw [String.toList_append, String.toList_append, List.append_assoc]
    exact Text.splitChars_append ',' a.toList b.toList
  rw [parsePaths, split, List.map_append, List.filterMap_append, parsePaths, parsePaths]

theorem parsePaths_eq_nil : parsePaths raw = [] ↔ ∀ p ∈ pieces raw, Text.Blank p.toList := by
  rw [parsePaths_eq, List.filterMap_eq_nil_iff]
  exact forall₂_congr fun _ _ => item?_eq_none

end Center

namespace Search

variable {R : Type} [Remote R]

def Event.entered? : Event → Option Datacenter
  | .opened d _ | .searched d _ => some d
  | _ => none

theorem pending_of_entered {s t : State R} {m : Move} {fs : List Event} (hc : Change s m fs t)
    {v : Event} (hv : v ∈ fs) {d : Datacenter} (hd : v.entered? = some d) : s.Pending d := by
  cases hc with
  | «open» _ hw | unopen _ hw | look _ hw | miss _ hw =>
    obtain rfl := List.mem_singleton.1 hv
    obtain rfl := Option.some.inj hd
    exact .inr (.inr ⟨_, List.mem_of_getElem? hw, rfl⟩)
  | connect | refuse | list | unlist | report =>
    obtain rfl := List.mem_singleton.1 hv
    cases hd
  | _ => cases hv

theorem listed_of_entered {n : Network R} {q : Query} {pool : Nat} {spent : Bool}
    {ms : List (Nat × Move)} {s : State R} {es : List Event}
    (h : (start q pool spent n).follow ms = some (s, es)) {v : Event} (hv : v ∈ es)
    {d : Datacenter} (hd : v.entered? = some d) : Listed (n.centers.map (·.2.config)) es d := by
  let centers := n.centers.map (·.2.config)
  have run : Traced centers es s ∧ ∀ v ∈ es, ∀ d, v.entered? = some d → Listed centers es d := by
    refine follow_induction (P := fun es s =>
      Traced centers es s ∧ ∀ v ∈ es, ∀ d, v.entered? = some d → Listed centers es d)
      ⟨.start n q pool spent, nofun⟩ (fun _ _ time hu => ⟨hu.1.wait time, hu.2⟩) ?_ h
    intro es fs m u t hu hc
    refine ⟨hu.1.change hc, fun v hv d hd => ?_⟩
    obtain hv | hv := List.mem_append.1 hv
    · exact (hu.2 v hv d hd).append fs
    · exact (hu.1.pending d (pending_of_entered hc hv hd)).append fs
  exact run.2 v hv d hd

end Search

namespace Config.Entry

def Admits (e : Entry) (i : DatacenterInfo) : Prop :=
  (∀ p ∈ Center.pieces e.datacenters, Text.Blank p.toList) ∨
    i.id ∈ Center.parsePaths e.datacenters ∨ i.name ∈ Center.parsePaths e.datacenters

instance (e : Entry) (i : DatacenterInfo) : Decidable (e.Admits i) :=
  inferInstanceAs (Decidable (_ ∨ _ ∨ _))

theorem allows_iff (e : Entry) (insecure : Bool) (i : DatacenterInfo) :
    (e.settings insecure).allows i.id i.name = true ↔ e.Admits i := by
  rw [Admits, ← Center.parsePaths_eq_nil]
  simp only [Center.Config.allows, settings, Bool.or_eq_true, List.isEmpty_iff, List.any_eq_true,
    decide_eq_true_eq]
  refine or_congr_right ⟨?_, ?_⟩
  · rintro ⟨p, hp, rfl | rfl⟩
    · exact .inl hp
    · exact .inr hp
  · rintro (h | h)
    · exact ⟨_, h, .inl rfl⟩
    · exact ⟨_, h, .inr rfl⟩

/-- The datacenters among `all` that the entry lets be searched. -/
def admitted (e : Entry) (all : List DatacenterInfo) : List Datacenter :=
  (all.filter fun i => e.Admits i).map (Datacenter.ofInfo e.host)

theorem select_settings (e : Entry) (insecure : Bool) (all : List DatacenterInfo) :
    Network.select (e.settings insecure) all = e.admitted all := by
  have same : (all.filter fun i => (e.settings insecure).allows i.id i.name) =
      all.filter fun i => e.Admits i :=
    List.filter_congr fun i _ => by
      rw [Bool.eq_iff_iff, decide_eq_true_iff]
      exact e.allows_iff insecure i
  rw [Network.select, same]
  rfl

def reach (e : Entry) (f : Fleet) : List Datacenter :=
  ((f.get? e.host).map fun p => e.admitted p.datacenters).getD []

theorem offered_settings (e : Entry) (insecure : Bool) (f : Fleet) :
    f.offered (e.settings insecure) = e.reach f := by
  simp only [Fleet.offered, select_settings]
  rfl

end Config.Entry

/-- The laws of allow-lists: a comma joins two of them, an entry is what is left of a piece without
the white space around it, white space and blank pieces do not matter, and nothing is named by blank
pieces alone. A center lists what its text names, or everything. A search turns to nothing else, and
in vain only after it has looked into all of that. -/
theorem Center.allow_lists :
    (∀ a b, parsePaths (a ++ "," ++ b) = parsePaths a ++ parsePaths b) ∧
    (∀ raw, ∀ p ∈ parsePaths raw, IsEntry p) ∧
    (∀ raw ps, Spaced (parsePaths raw) ps →
      parsePaths (",".intercalate ps) = parsePaths raw) ∧
    (∀ raw, parsePaths raw = [] ↔ ∀ p ∈ pieces raw, Text.Blank p.toList) ∧
    (∀ (R : Type) [Remote R] (e : Config.Entry) (insecure : Bool) (n : Network R),
      (Network.datacenters (e.settings insecure)).run.run n =
        match (Network.client e.host).run.run n with
        | (.ok s, n) => (((Network.ask s .datacenters).run.run n).1.map e.admitted,
            ((Network.ask s .datacenters).run.run n).2)
        | (.error x, n) => (.error x, n)) ∧
    ∀ (entries : List Config.Entry) (insecure : Bool) (n : Network Fleet), n.Proper →
      n.centers.map (·.2.config) = entries.map (·.settings insecure) →
      ∀ (q : Query) (pool : Nat) (spent : Bool) (ms : List (Nat × Search.Move))
        (s : Search.State Fleet) (es : List Search.Event), 0 < pool →
        (Search.start q pool spent n).follow ms = some (s, es) →
        (∀ v ∈ es, ∀ d, v.entered? = some d → ∃ e ∈ entries, d ∈ e.reach n.planes) ∧
        ∀ name uuid, s.phase = .done → s.outcome = .error (.vmNotFound name uuid) →
          (es.filterMap Search.Event.searched?).Perm (entries.flatMap (·.reach n.planes)) := by
  refine ⟨parsePaths_append, fun raw p hp => isEntry_of_mem_parsePaths hp,
    fun raw ps h => parsePaths_intercalate (fun e he => isEntry_of_mem_parsePaths he) h,
    fun raw => parsePaths_eq_nil, fun R _ e insecure n => ?_,
    fun entries insecure n hn hc q pool spent ms s es hp h => ⟨fun v hv d hd => ?_,
      fun name uuid done missed => ?_⟩⟩
  · have hs : Network.select (e.settings insecure) = e.admitted :=
      funext (e.select_settings insecure)
    rw [Network.run_datacenters, hs]
    rfl
  · obtain ⟨c, hm, ds, hl, hd⟩ := Search.listed_of_entered h hv hd
    obtain ⟨e, he, rfl⟩ := List.mem_map.1 (hc ▸ hm)
    obtain rfl : ds = n.planes.offered (e.settings insecure) :=
      (Search.seeing_follow hn h).true_ _ hl
    exact ⟨e, he, e.offered_settings insecure n.planes ▸ hd⟩
  · have hb := Search.booked_follow Fleet.isPlain hp h
    obtain ⟨answers, ha, hl, searched⟩ := hb.perm hp done (hb.quiet_of_missed done missed)
    have offered : ∀ a ∈ answers, Network.select a.1 a.2 = n.planes.offered a.1 :=
      fun a hm => (Search.seeing_follow hn h).true_ _ (hl a hm)
    have all := calc
      answers.flatMap (fun a => Network.select a.1 a.2)
          = answers.flatMap (fun a => n.planes.offered a.1) := List.flatMap_congr offered
      _ = (answers.map (·.1)).flatMap n.planes.offered := (List.flatMap_map ..).symm
      _ = (entries.map (·.settings insecure)).flatMap n.planes.offered := by rw [ha, hc]
      _ = entries.flatMap (n.planes.offered <| ·.settings insecure) := List.flatMap_map ..
      _ = entries.flatMap (·.reach n.planes) :=
        List.flatMap_congr fun e _ => e.offered_settings insecure n.planes
    exact all ▸ searched

/-- One entry and three datacenters, of which two are named, one by its id and one by its name. -/
theorem Center.allow_lists_two :
    let e : Config.Entry :=
      { host := "vc", user := "", password := "", datacenters := " dc-1 ,,two,\u3000" }
    let plane : Plane :=
      { host := "vc", datacenters := [{ id := "dc-1", name := "one" },
        { id := "dc-2", name := "two" }, { id := "dc-3", name := "three" }] }
    let n := Network.register { planes := Fleet.ofPlanes [plane] } (e.settings false)
    parsePaths (",".intercalate ["", "\tdc-1", "\u2003two\n", " "]) = parsePaths e.datacenters ∧
    ∃ ms s es, (Search.start ⟨"m", ""⟩ 1 false n).follow ms = some (s, es) ∧ s.phase = .done ∧
      s.outcome = .error (.vmNotFound "m" "") ∧
      (∀ v ∈ es, ∀ d, v.entered? = some d → d ∈ e.reach n.planes) ∧
      (es.filterMap Search.Event.searched?).Perm
        [⟨"dc-1", "one", "vc"⟩, ⟨"dc-2", "two", "vc"⟩] := by
  intro e plane n
  have paths : parsePaths e.datacenters = ["dc-1", "two"] := by decide +kernel
  have spaced : Spaced ["dc-1", "two"] ["", "\tdc-1", "\u2003two\n", " "] :=
    .blank (by decide) (.entry (show Text.Blank "\t".toList by decide)
      (show Text.Blank "".toList by decide)
      (.entry (show Text.Blank "\u2003".toList by decide) (show Text.Blank "\n".toList by decide)
        (.blank (by decide) .nil)))
  obtain ⟨-, -, joined, -, -, searched⟩ := allow_lists
  refine ⟨joined _ _ (paths ▸ spaced), ?_⟩
  let moves : List Search.Move := List.replicate 6 .producer ++ List.replicate 7 (.worker 0) ++
    [.result, .close]
  have hm : ((Search.start ⟨"m", ""⟩ 1 false n).follow (moves.map fun m => (0, m))).any
      (fun r => r.1.phase = .done ∧ r.1.found = none ∧ r.1.failed = none ∧
        r.1.abandoned = false) = true := by
    decide +kernel
  obtain ⟨⟨s, es⟩, h, he⟩ := (Option.any_eq_true _ _).1 hm
  obtain ⟨hd, hf, he, ha⟩ : s.phase = .done ∧ s.found = none ∧ s.failed = none ∧
      s.abandoned = false := of_decide_eq_true he
  have ho : s.outcome = .error (.vmNotFound "m" "") := by
    simp [Search.State.outcome, hf, he, ha, Search.query_follow h, Search.start, Query.missed]
  have reach : e.reach n.planes = [⟨"dc-1", "one", "vc"⟩, ⟨"dc-2", "two", "vc"⟩] := by
    decide +kernel
  obtain ⟨only, all⟩ := searched [e] false n
    ((Network.proper_of_planes _).register _) rfl ⟨"m", ""⟩ 1 false _ s es (by decide) h
  refine ⟨_, s, es, h, hd, ho, fun v hv d hd => ?_, ?_⟩
  · obtain ⟨e', he', hd⟩ := only v hv d hd
    obtain rfl := List.mem_singleton.1 he'
    exact hd
  · rw [← reach, ← List.flatMap_singleton (·.reach n.planes) e]
    exact all "m" "" hd ho

end StorageDriver
