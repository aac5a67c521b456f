import Mathlib.Data.List.DropRight
import Mathlib.Data.List.Forall2
import StorageDriver.Proofs.Segments

namespace StorageDriver.Http.Target

def strip (cs : List Char) : List Char := cs.rdropWhile (· ≤ ' ')

def stays (c : Char) : Bool := c ≠ '\t' && c ≠ '\n' && c ≠ '\r'

/-- What of a text without blanks at its end is made a path. -/
def uncut (cs : List Char) : List Char :=
  ((cs.filter stays).takeWhile (· ≠ '#')).takeWhile (· ≠ '?')

def pathPart (cs : List Char) : List Char := uncut (strip cs)

theorem clean_eq (cs : List Char) : clean cs = (strip cs).filter stays := rfl

/-- The marks that end a text or are left out of it. -/
def drops : List Char := ['#', '\t', '\n', '\r']

def cuts : List Char := '?' :: drops

theorem toList_path (text : String) : (ofText text).path.toList =
    ((resolve [] (splitSlashes (pathPart text.toList))).map escaped).flatMap ('/' :: ·) := by
  rw [List.flatMap_map]
  exact String.toList_ofList ..

section

variable {cs js q : List Char}

theorem uncut_sublist (cs : List Char) : (uncut cs).Sublist cs :=
  (List.takeWhile_sublist _).trans ((List.takeWhile_sublist _).trans List.filter_sublist)

theorem strip_sublist (cs : List Char) : (strip cs).Sublist cs :=
  (List.rdropWhile_prefix _ _).sublist

theorem filter_stays (h : ∀ c ∈ cs, c ∉ drops) : cs.filter stays = cs := by
  refine List.filter_eq_self.2 fun c hc => ?_
  have hn := h c hc
  simp only [drops, List.mem_cons, not_or] at hn
  simp [stays, hn]

theorem takeWhile_filter (h : ∀ c ∈ cs, c ∉ drops) :
    (cs.filter stays).takeWhile (· ≠ '#') = cs := by
  rw [filter_stays h]
  exact List.takeWhile_eq_self_iff.2 fun c hc => decide_eq_true fun he => h c hc (he ▸ by decide)

theorem uncut_eq_iff : uncut cs = cs ↔ ∀ c ∈ cs, c ∉ cuts := by
  refine ⟨fun h c hc => ?_, fun h => ?_⟩
  · rw [← h] at hc
    have query := List.mem_takeWhile_imp hc
    have hc := (List.takeWhile_sublist _).mem hc
    have fragment := List.mem_takeWhile_imp hc
    have blank := List.of_mem_filter ((List.takeWhile_sublist _).mem hc)
    simp only [stays, Bool.and_eq_true, decide_eq_true_eq] at query fragment blank
    simp [cuts, drops, query, fragment, blank]
  · rw [uncut, takeWhile_filter fun c hc hd => h c hc (List.mem_cons_of_mem _ hd)]
    exact List.takeWhile_eq_self_iff.2 fun c hc => decide_eq_true fun he => h c hc (he ▸ by decide)

theorem strip_eq_iff : strip cs = cs ↔ ∀ c ∈ cs.getLast?, ' ' < c := by
  rw [strip, List.rdropWhile_eq_self_iff]
  refine ⟨fun h c hc => ?_, fun h hn => ?_⟩
  · have hn : cs ≠ [] := List.ne_nil_of_mem (List.mem_of_getLast? hc)
    rw [Option.mem_def, List.getLast?_eq_some_getLast hn, Option.some.injEq] at hc
    exact Char.not_le.1 fun hl => h hn (decide_eq_true (hc ▸ hl))
  · have hc := h _ (List.getLast?_eq_some_getLast hn)
    exact fun hl => Char.not_le.2 hc (of_decide_eq_true hl)

theorem pathPart_eq_iff : pathPart cs = cs ↔ (∀ c ∈ cs, c ∉ cuts) ∧ ∀ c ∈ cs.getLast?, ' ' < c := by
  rw [← uncut_eq_iff, ← strip_eq_iff]
  refine ⟨fun h => ?_, fun ⟨hu, hs⟩ => by rw [pathPart, hs, hu]⟩
  have hs : strip cs = cs := by
    refine (strip_sublist cs).eq_of_length_le ?_
    have hl := (uncut_sublist (strip cs)).length_le
    rwa [show uncut (strip cs) = cs from h] at hl
  rw [pathPart, hs] at h
  exact ⟨h, hs⟩

theorem uncut_query (js q : List Char) : uncut (js ++ '?' :: q) = uncut js := by
  induction js with
  | nil => rfl
  | cons c js ih =>
    simp only [uncut, List.cons_append, List.filter_cons] at ih ⊢
    split
    · rw [List.takeWhile_cons, List.takeWhile_cons]
      split
      · rw [List.takeWhile_cons, List.takeWhile_cons, ih]
      · rfl
    · exact ih

theorem strip_query (hq : ∀ c ∈ q, keptInQuery c = true) :
    strip (js ++ '?' :: q) = js ++ '?' :: q := by
  refine strip_eq_iff.2 fun c hc => ?_
  rw [List.getLast?_append_cons] at hc
  obtain rfl | hc := List.mem_cons.1 (List.mem_of_getLast? hc)
  · decide
  · have kept := hq c hc
    simp only [keptInQuery, isGraphic, Bool.and_eq_true, decide_eq_true_eq] at kept
    exact kept.1.1

theorem pathPart_query (hq : ∀ c ∈ q, keptInQuery c = true) :
    pathPart (js ++ '?' :: q) = uncut js := by
  rw [pathPart, strip_query hq, uncut_query]

def queryPart (cs : List Char) : Option String :=
  match ((clean cs).takeWhile (· ≠ '#')).dropWhile (· ≠ '?') with
  | _ :: q => some (String.ofList (q.flatMap (escape keptInQuery)))
  | [] => none

theorem query_ofText (text : String) : (ofText text).query = queryPart text.toList := rfl

theorem ofText_congr {a b : String} (path : (ofText a).path.toList = (ofText b).path.toList)
    (query : queryPart a.toList = queryPart b.toList) : ofText a = ofText b := by
  show Target.mk (ofText a).path (queryPart a.toList) =
    Target.mk (ofText b).path (queryPart b.toList)
  rw [String.toList_inj.1 path, query]

theorem queryPart_eq_none (hs : strip js = js) (hj : ∀ c ∈ js, c ∉ cuts) : queryPart js = none := by
  have whole : (clean js).takeWhile (· ≠ '#') = js := by
    rw [clean_eq, hs]
    exact takeWhile_filter fun c hc hd => hj c hc (List.mem_cons_of_mem _ hd)
  have rest : js.dropWhile (· ≠ '?') = [] := List.dropWhile_eq_nil_iff.2 fun c hc =>
    decide_eq_true fun he => hj c hc (he ▸ by decide)
  rw [queryPart, whole, rest]

theorem queryPart_eq_some (hj : ∀ c ∈ js, c ∉ cuts) (hq : ∀ c ∈ q, keptInQuery c = true) :
    queryPart (js ++ '?' :: q) = some (String.ofList q) := by
  have dropped : ∀ c ∈ drops, (!keptInQuery c) = true := List.all_eq_true.1 (by decide)
  have whole : (clean (js ++ '?' :: q)).takeWhile (· ≠ '#') = js ++ '?' :: q := by
    rw [clean_eq, strip_query hq]
    refine takeWhile_filter fun c hc hd => ?_
    obtain hc | hc := List.mem_append.1 hc
    · exact hj c hc (List.mem_cons_of_mem _ hd)
    · obtain rfl | hc := List.mem_cons.1 hc
      · exact absurd hd (by decide)
      · exact absurd (hq c hc) (by simpa using dropped c hd)
  have rest : (js ++ '?' :: q).dropWhile (· ≠ '?') = '?' :: q :=
    List.dropWhile_append_of_pos fun c hc => decide_eq_true fun he => hj c hc (he ▸ by decide)
  have same : ∀ c ∈ q, escape keptInQuery c = [c] := fun c hc => if_pos (hq c hc)
  rw [queryPart, whole, rest]
  show some (String.ofList (q.flatMap (escape keptInQuery))) = some (String.ofList q)
  rw [List.flatMap_congr same, List.flatMap_singleton']

end

structure Names (seg text : List Char) : Prop where
  slashless : '/' ∉ seg
  bytes : unescape seg = text.flatMap String.utf8EncodeChar

/-- A path whose segments stand for these texts. -/
def Spells (path : List Char) (ss : List (List Char)) : Prop :=
  ∃ ts, List.Forall₂ Names ts ss ∧ path = ts.flatMap ('/' :: ·)

/-- A text that is a segment by itself, wherever it is put. -/
structure IsPlain (s : List Char) : Prop where
  slashless : ∀ c ∈ s, isSlash c = false
  uncut : ∀ c ∈ s, c ∉ cuts
  unescaped : hasEscape s = false
  dotless : isDot s = false ∧ isDoubleDot s = false

instance (s : List Char) : Decidable (IsPlain s) :=
  decidable_of_iff (s.all (!isSlash ·) = true ∧ s.all (!cuts.contains ·) = true ∧
      hasEscape s = false ∧ isDot s = false ∧ isDoubleDot s = false)
    ⟨fun ⟨a, b, c, d⟩ => ⟨by simpa using a, by simpa using b, c, d⟩,
      fun ⟨a, b, c, d⟩ => ⟨by simpa using a, by simpa using b, c, d⟩⟩

section

variable {k s : List Char} {rs ss ts : List (List Char)}

theorem query_not_mem_path (text : String) : '?' ∉ (ofText text).path.toList := by
  have digit : ∀ n < 16, '?' ≠ Target.hexDigit n := by decide
  rw [toList_path]
  intro hm
  obtain ⟨t, ht, hm⟩ := List.mem_flatMap.1 hm
  obtain ⟨s, -, rfl⟩ := List.mem_map.1 ht
  obtain hm | hm := List.mem_cons.1 hm
  · exact absurd hm (by decide)
  · obtain ⟨-, hk⟩ | hc | ⟨n, hn, hc⟩ := of_mem_escaped hm
    · exact absurd hk (by decide)
    · exact absurd hc (by decide)
    · exact digit n hn hc

theorem toList_render (t : Target) :
    t.render.toList = t.path.toList ++ t.query.elim [] ('?' :: ·.toList) := by
  cases h : t.query <;> simp [render, h]

theorem path_of_render {t : Target} (h : '?' ∉ t.path.toList) :
    t.path.toList = t.render.toList.takeWhile (· ≠ '?') := by
  have before : ∀ c ∈ t.path.toList, decide (c ≠ '?') = true :=
    fun c hc => decide_eq_true fun he => h (he ▸ hc)
  rw [toList_render, List.takeWhile_append_of_pos before]
  cases t.query with
  | none => exact (List.append_nil _).symm
  | some q => exact (List.append_nil _).symm

theorem eq_of_render {t u : Target} (ht : '?' ∉ t.path.toList) (hu : '?' ∉ u.path.toList)
    (h : t.render = u.render) : t = u := by
  have path : t.path.toList = u.path.toList := by
    rw [path_of_render ht, path_of_render hu, h]
  have tail := congrArg String.toList h
  rw [toList_render, toList_render, path] at tail
  have query := List.append_cancel_left tail
  obtain ⟨p, q⟩ := t
  obtain ⟨p', q'⟩ := u
  obtain rfl := String.toList_inj.1 path
  cases q with
  | none =>
    cases q' with
    | none => rfl
    | some y => cases query
  | some x =>
    cases q' with
    | none => cases query
    | some y =>
      obtain rfl := String.toList_inj.1 (List.cons.inj query).2
      rfl

theorem splitOn_path (h : ∀ s ∈ ss, '/' ∉ s) :
    (ss.flatMap ('/' :: ·)).splitOn '/' = [] :: ss := by
  induction ss with
  | nil => rfl
  | cons s ss ih =>
    have hs := h s List.mem_cons_self
    have ih := ih fun t ht => h t (List.mem_cons_of_mem _ ht)
    have first : ∀ cs : List Char, ('/' :: cs).splitOn '/' = [] :: cs.splitOn '/' :=
      List.splitOn_append_cons_self_of_not_mem (List.not_mem_nil : '/' ∉ [])
    rw [List.flatMap_cons, List.cons_append, first]
    congr 1
    cases ss with
    | nil =>
      rw [List.flatMap_nil, List.append_nil]
      exact List.splitOn_eq_singleton hs
    | cons t ts =>
      rw [List.flatMap_cons, List.cons_append] at ih ⊢
      rw [first] at ih
      rw [List.splitOn_append_cons_self_of_not_mem hs, (List.cons.inj ih).2]

theorem eq_of_paths (hs : ∀ s ∈ ss, '/' ∉ s) (ht : ∀ t ∈ ts, '/' ∉ t)
    (h : ss.flatMap ('/' :: ·) = ts.flatMap ('/' :: ·)) : ss = ts := by
  have hs := splitOn_path hs
  rw [h, splitOn_path ht] at hs
  exact (List.cons.inj hs).2.symm

theorem extent_of_named
    (h : List.Forall₂ (fun r s => unescape r = s.flatMap String.utf8EncodeChar) rs ss) :
    extent ss ≤ extent rs ∧ (extent rs ≤ extent ss → ∀ r ∈ rs, hasEscape r = false) := by
  induction h with
  | nil => exact ⟨Nat.le_refl _, fun _ => nofun⟩
  | @cons r s rs ss hr h ih =>
    have hl := length_unescape r
    rw [hr] at hl
    change size s + _ ≤ _ at hl
    rw [extent, extent, List.forall_mem_cons]
    refine ⟨by omega, fun hle => ?_⟩
    cases he : hasEscape r with
    | true =>
      rw [he, if_pos rfl] at hl
      omega
    | false => exact ⟨rfl, ih.2 (by omega)⟩

theorem slashless_of_names (h : List.Forall₂ Names ts ss) : ∀ t ∈ ts, '/' ∉ t := by
  induction h with
  | nil => exact nofun
  | cons ht h ih => exact List.forall_mem_cons.2 ⟨ht.slashless, ih⟩

/-- Nothing may be lost on the way to a path that spells what was written, for that is no longer
than the text. -/
theorem plain_of_spells (hne : ss ≠ []) (hk : k.Sublist (join ss))
    (h : Spells (((resolve [] (splitSlashes k)).map escaped).flatMap ('/' :: ·)) ss) :
    k = join ss ∧ ∀ s ∈ ss, (∀ c ∈ s, isSlash c = false) ∧ hasEscape s = false ∧
      isDot s = false ∧ isDoubleDot s = false := by
  obtain ⟨ts, names, path⟩ := h
  generalize hr : resolve [] (splitSlashes k) = rs at path
  have written : ∀ s ∈ rs.map escaped, '/' ∉ s := by
    intro s hs
    obtain ⟨r, hm, rfl⟩ := List.mem_map.1 hs
    refine slash_not_mem_escaped fun hc => ?_
    obtain hm | hm | rfl := mem_of_mem_resolve (hr ▸ hm)
    · cases hm
    · exact absurd (slashless_of_mem hm _ hc) (by decide)
    · cases hc
  obtain rfl := eq_of_paths written (slashless_of_names names) path
  have named : List.Forall₂ (fun r s => unescape r = s.flatMap String.utf8EncodeChar) rs ss :=
    (List.forall₂_map_left_iff.1 names).imp fun r s h => (unescape_escaped r).symm.trans h.bytes
  obtain ⟨least, escapes⟩ := extent_of_named named
  have parts := extent_splitSlashes k
  have whole := extent_eq hne
  have shorter := size_le_of_sublist hk
  have length := hk.length_le
  have dotless : ∀ s ∈ splitSlashes k, isDot s = false ∧ isDoubleDot s = false := by
    obtain dotless | less := extent_resolve [] (splitSlashes k)
    · exact dotless
    · rw [hr, extent, Nat.zero_add] at less
      omega
  rw [resolve_of_dotless dotless, List.reverse_nil, List.nil_append] at hr
  subst hr
  obtain rfl : k = join ss := hk.eq_of_length_le (by omega)
  have pieces := splitSlashes_join hne
  have single : ∀ s ∈ ss, splitSlashes s = [s] :=
    slashless_of_join (pieces ▸ Nat.le_of_eq named.length_eq)
  have same : splitSlashes (join ss) = ss := by
    rw [pieces, List.flatMap_congr single, List.flatMap_singleton']
  rw [same] at escapes dotless
  refine ⟨rfl, fun s hs => ⟨?_, escapes (Nat.le_refl _) s hs, dotless s hs⟩⟩
  exact slashless_of_mem (single s hs ▸ List.mem_singleton_self s)

def written (ss : List (List Char)) (query : Option String) : String :=
  String.ofList (join ss) ++ query.elim "" ("?" ++ ·)

def Ends (ss : List (List Char)) : Prop := ∀ c ∈ (join ss).getLast?, ' ' < c

theorem ends_iff : Ends ss ↔ ∀ s ∈ ss.getLast?, ∀ c ∈ s.getLast?, ' ' < c := by
  induction ss with
  | nil => simp [Ends, join]
  | cons s ss ih =>
    cases ss with
    | nil => simp [Ends, join, List.intercalate_singleton]
    | cons t ts =>
      rw [List.getLast?_cons_cons, ← ih, Ends, Ends, join_cons_cons, List.getLast?_append_cons]
      cases hj : join (t :: ts) with
      | nil => simp
      | cons c cs => rw [List.getLast?_cons_cons]

variable {query : Option String}

theorem pathPart_written (ss : List (List Char))
    (hq : ∀ x ∈ query, ∀ c ∈ x.toList, keptInQuery c = true) :
    (pathPart (written ss query).toList).Sublist (join ss) ∧
      (pathPart (written ss query).toList = join ss ↔
        (∀ s ∈ ss, ∀ c ∈ s, c ∉ cuts) ∧ (query = none → Ends ss)) := by
  rw [← forall_mem_join (p := (· ∉ cuts)) (by decide)]
  cases query with
  | none =>
    have text : (written ss none).toList = join ss := by simp [written]
    rw [text]
    refine ⟨(uncut_sublist _).trans (strip_sublist _), ?_⟩
    rw [pathPart_eq_iff]
    exact and_congr_right fun _ => ⟨fun h _ => h, fun h => h rfl⟩
  | some x =>
    have text : (written ss (some x)).toList = join ss ++ '?' :: x.toList := by simp [written]
    rw [text, pathPart_query (hq x rfl)]
    exact ⟨uncut_sublist _, uncut_eq_iff.trans (and_iff_left nofun).symm⟩

theorem names_escaped (h : IsPlain s) : Names (escaped s) s where
  slashless := slash_not_mem_escaped fun hc => absurd (h.slashless _ hc) (by decide)
  bytes := (unescape_escaped s).trans (unescape_of_plain h.unescaped)

theorem path_written (hne : ss ≠ []) (hq : ∀ x ∈ query, ∀ c ∈ x.toList, keptInQuery c = true)
    (plain : ∀ s ∈ ss, IsPlain s) (ends : query = none → Ends ss) :
    (ofText (written ss query)).path.toList = (ss.map escaped).flatMap ('/' :: ·) := by
  have part := (pathPart_written ss hq).2.2 ⟨fun s hs => (plain s hs).uncut, ends⟩
  have single : ∀ s ∈ ss, splitSlashes s = [s] :=
    fun s hs => splitSlashes_of_slashless (plain s hs).slashless
  rw [toList_path, part, splitSlashes_join hne, List.flatMap_congr single, List.flatMap_singleton',
    resolve_of_dotless fun s hs => (plain s hs).dotless, List.reverse_nil, List.nil_append]

theorem query_written (hq : ∀ x ∈ query, ∀ c ∈ x.toList, keptInQuery c = true)
    (plain : ∀ s ∈ ss, IsPlain s) (ends : query = none → Ends ss) :
    (ofText (written ss query)).query = query := by
  have path : ∀ c ∈ join ss, c ∉ cuts :=
    (forall_mem_join (by decide)).2 fun s hs => (plain s hs).uncut
  rw [query_ofText]
  cases query with
  | none =>
    have text : (written ss none).toList = join ss := by simp [written]
    rw [text]
    exact queryPart_eq_none (strip_eq_iff.2 (ends rfl)) path
  | some x =>
    have text : (written ss (some x)).toList = join ss ++ '?' :: x.toList := by simp [written]
    rw [text, queryPart_eq_some path (hq x rfl), String.ofList_toList]

theorem spells_iff (hne : ss ≠ []) (hq : ∀ x ∈ query, ∀ c ∈ x.toList, keptInQuery c = true) :
    Spells (ofText (written ss query)).path.toList ss ↔
      (∀ s ∈ ss, IsPlain s) ∧ (query = none → Ends ss) := by
  obtain ⟨shorter, part⟩ := pathPart_written ss hq
  refine ⟨fun h => ?_, fun ⟨plain, ends⟩ => ⟨ss.map escaped, ?_, path_written hne hq plain ends⟩⟩
  · rw [toList_path] at h
    obtain ⟨whole, each⟩ := plain_of_spells hne shorter h
    obtain ⟨uncut, ends⟩ := part.1 whole
    refine ⟨fun s hs => ?_, ends⟩
    obtain ⟨slashless, unescaped, dotless⟩ := each s hs
    exact ⟨slashless, uncut s hs, unescaped, dotless⟩
  · rw [List.forall₂_map_left_iff, List.forall₂_same]
    exact fun s hs => names_escaped (plain s hs)

end

section

variable {front : List Char}

theorem strip_append (h : ∀ c ∈ front.getLast?, ' ' < c) (cs : List Char) :
    strip (front ++ cs) = front ++ strip cs := by
  induction cs using List.reverseRecOn with
  | nil =>
    rw [List.append_nil, strip_eq_iff.2 h]
    exact (List.append_nil _).symm
  | append_singleton cs c ih =>
    rw [strip, ← List.append_assoc, List.rdropWhile_concat, strip, List.rdropWhile_concat]
    split
    · exact ih
    · exact List.append_assoc ..

theorem takeWhile_append (h : ∀ c ∈ front, c ∉ cuts) (cs : List Char) :
    ((front ++ cs).filter stays).takeWhile (· ≠ '#') =
      front ++ (cs.filter stays).takeWhile (· ≠ '#') := by
  have before : ∀ c ∈ front, decide (c ≠ '#') = true := fun c hc =>
    decide_eq_true fun he => h c hc (he ▸ by decide)
  rw [List.filter_append, filter_stays fun c hc hd => h c hc (List.mem_cons_of_mem _ hd),
    List.takeWhile_append_of_pos before]

theorem pathPart_append (ends : ∀ c ∈ front.getLast?, ' ' < c) (h : ∀ c ∈ front, c ∉ cuts)
    (cs : List Char) : pathPart (front ++ cs) = front ++ pathPart cs := by
  have before : ∀ c ∈ front, decide (c ≠ '?') = true := fun c hc =>
    decide_eq_true fun he => h c hc (he ▸ by decide)
  rw [pathPart, pathPart, strip_append ends, uncut, takeWhile_append h,
    List.takeWhile_append_of_pos before, uncut]

theorem queryPart_append (ends : ∀ c ∈ front.getLast?, ' ' < c) (h : ∀ c ∈ front, c ∉ cuts)
    (cs : List Char) : queryPart (front ++ cs) = queryPart cs := by
  have before : ∀ c ∈ front, decide (c ≠ '?') = true := fun c hc =>
    decide_eq_true fun he => h c hc (he ▸ by decide)
  have whole : (clean (front ++ cs)).takeWhile (· ≠ '#') =
      front ++ (clean cs).takeWhile (· ≠ '#') := by
    rw [clean_eq, clean_eq, strip_append ends, takeWhile_append h]
  rw [queryPart, whole, List.dropWhile_append_of_pos before, queryPart]

theorem ofText_detour (x : String) :
    ofText ("volumes/../vms/" ++ x) = ofText ("vms/" ++ x) := by
  have plain (front : List Char) (h : front.all (!cuts.contains ·) = true) :
      ∀ c ∈ front, c ∉ cuts := by
    simpa using h
  have ends (front : List Char) (h : front.getLast? = some '/') : ∀ c ∈ front.getLast?, ' ' < c :=
    fun c hc => Option.some.inj (h.symm.trans hc) ▸ by decide
  have long := plain "volumes/../vms/".toList (by decide)
  have short := plain "vms/".toList (by decide)
  have segments (ss : List (List Char)) :
      resolve [] ("volumes".toList :: "..".toList :: "vms".toList :: ss) =
        resolve [] ("vms".toList :: ss) := rfl
  have path : (ofText ("volumes/../vms/" ++ x)).path.toList =
      (ofText ("vms/" ++ x)).path.toList := by
    have detour (cs : List Char) : splitSlashes ("volumes/../vms/".toList ++ cs) =
        "volumes".toList :: "..".toList :: splitSlashes ("vms/".toList ++ cs) :=
      (splitSlashes_append "volumes".toList (by decide) _).trans
        (congrArg _ (splitSlashes_append "..".toList (by decide) _))
    have direct (cs : List Char) : splitSlashes ("vms/".toList ++ cs) =
        "vms".toList :: splitSlashes cs :=
      splitSlashes_append "vms".toList (by decide) cs
    rw [toList_path, toList_path, String.toList_append, String.toList_append,
      pathPart_append (ends _ rfl) long, pathPart_append (ends _ rfl) short, detour, direct,
      segments]
  have query : queryPart ("volumes/../vms/" ++ x).toList = queryPart ("vms/" ++ x).toList := by
    rw [String.toList_append, String.toList_append, queryPart_append (ends _ rfl) long,
      queryPart_append (ends _ rfl) short]
  exact ofText_congr path query

end

end StorageDriver.Http.Target
