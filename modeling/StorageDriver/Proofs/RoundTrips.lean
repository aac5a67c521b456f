import Mathlib.Data.List.Nodup
import StorageDriver.Proofs.Contents

namespace StorageDriver.Json

mutual

def height : Json → Nat
  | .array items => heightItems items + 1
  | .object members => heightMembers members + 1
  | _ => 0

def heightItems : List Json → Nat
  | [] => 0
  | j :: js => max j.height (heightItems js)

def heightMembers : List (String × Json) → Nat
  | [] => 0
  | (_, j) :: ms => max j.height (heightMembers ms)

end

theorem heightMembers_le {ms : List (String × Json)} {n : Nat} :
    heightMembers ms ≤ n ↔ ∀ p ∈ ms, p.2.height ≤ n := by
  induction ms with
  | nil => simp [heightMembers]
  | cons p ms ih =>
    obtain ⟨k, j⟩ := p
    rw [heightMembers, Nat.max_le, ih, List.forall_mem_cons]

namespace Reading

mutual

theorem content_of_height {j : Json} {n : Nat} (hp : j.Proper) (h : j.height ≤ n) :
    (ofJson j).content n = .ok j := by
  match j, n with
  | .null, _ | .bool _, _ | .number _, _ | .string _, _ => simp only [ofJson, content]
  | .array items, 0 | .object members, 0 => simp [height] at h
  | .array items, n + 1 =>
    rw [height] at h
    simp only [ofJson, content, contentItems_of_height hp (Nat.le_of_succ_le_succ h)]
    rfl
  | .object members, n + 1 =>
    rw [height] at h
    have hm : contentMembers n [] (ofMembers members) = .ok ([] ++ members) :=
      contentMembers_of_height hp.1 hp.2 (Nat.le_of_succ_le_succ h)
    simp only [ofJson, content, hm]
    rfl

theorem contentItems_of_height {js : List Json} {n : Nat} (hp : ProperItems js)
    (h : heightItems js ≤ n) : contentItems n (ofItems js) = .ok js := by
  match js with
  | [] => rfl
  | j :: js =>
    rw [heightItems, Nat.max_le] at h
    simp only [ofItems, contentItems, content_of_height hp.1 h.1, contentItems_of_height hp.2 h.2]
    rfl

theorem contentMembers_of_height {seen ms : Table Json} {n : Nat}
    (hn : ((seen ++ ms).map (·.1)).Nodup) (hp : ProperMembers ms) (h : heightMembers ms ≤ n) :
    contentMembers n seen (ofMembers ms) = .ok (seen ++ ms) := by
  match ms with
  | [] => rw [List.append_nil]; rfl
  | (k, j) :: ms =>
    rw [heightMembers, Nat.max_le] at h
    have hk : k ∉ seen.map (·.1) := fun hm => by
      rw [List.map_append, List.nodup_append] at hn
      exact hn.2.2 k hm k List.mem_cons_self rfl
    rw [List.append_cons] at hn ⊢
    rw [← contentMembers_of_height hn hp.2 h.2, ← Table.put_of_not_mem hk]
    simp only [ofMembers, contentMembers, key, content_of_height hp.1 h.1]
    rfl

end

end Reading

/-- What is written of a value that `fits` is read as that value, and whatever is read fits. -/
structure Codec.Faithful {α : Type} (c : Codec α) (fits : α → Prop) : Prop where
  returns : ∀ {n a}, fits a → (c.encode a).height ≤ n →
    c.decode n (.ofJson (c.encode a)) = .ok a
  sound : ∀ {n j a}, j.Proper → c.decode n (.ofJson j) = .ok a → fits a

namespace Codec

variable {α : Type}

theorem faithful_string : string.Faithful fun _ => True := ⟨fun _ _ => rfl, fun _ _ => trivial⟩

theorem faithful_bool : bool.Faithful fun _ => True := ⟨fun _ _ => rfl, fun _ _ => trivial⟩

theorem faithful_natural (bound : Nat) : (natural bound).Faithful (· < bound) where
  returns {n k} hk _ := by
    have inside : (0 : Int) ≤ k ∧ (k : Int) < bound :=
      ⟨Int.natCast_nonneg k, Int.ofNat_lt.2 hk⟩
    simp only [natural, Reading.ofJson, if_pos inside, Int.toNat_natCast]
  sound _ h := (natural_decoded h).2

theorem faithful_double : double.Faithful (·.isFinite = true) where
  returns hf _ := by simp only [double, if_pos hf, Reading.ofJson]
  sound hp h := (double_decoded hp h).1

section

variable {c : Codec α} {fits : α → Prop}

theorem decodeItems_returns (hc : c.Faithful fits) {n : Nat} {as : List α}
    (ha : ∀ a ∈ as, fits a) (h : heightItems (as.map c.encode) ≤ n) :
    decodeItems c n (Reading.ofItems (as.map c.encode)) = .ok as := by
  induction as with
  | nil => rfl
  | cons a as ih =>
    obtain ⟨hf, ha⟩ := List.forall_mem_cons.1 ha
    rw [List.map_cons, heightItems, Nat.max_le] at h
    simp only [List.map_cons, Reading.ofItems, decodeItems, hc.returns hf h.1, ih ha h.2]
    rfl

theorem decodeItems_sound (hc : c.Faithful fits) {n : Nat} {js : List Json} {as : List α}
    (hp : ProperItems js) (h : decodeItems c n (Reading.ofItems js) = .ok as) :
    ∀ a ∈ as, fits a := by
  induction js generalizing as with
  | nil => exact Except.ok.inj h ▸ nofun
  | cons j js ih =>
    simp only [Reading.ofItems, decodeItems, bind_eq_ok] at h
    obtain ⟨a, ha, as', hs, he⟩ := h
    obtain rfl : a :: as' = as := Except.ok.inj he
    exact List.forall_mem_cons.2 ⟨hc.sound hp.1 ha, ih hp.2 hs⟩

theorem faithful_list (hc : c.Faithful fits) : c.list.Faithful fun as => ∀ a ∈ as, fits a where
  returns {n as} ha h := by
    have hh : heightItems (as.map c.encode) + 1 ≤ n := h
    cases n with
    | zero => cases hh
    | succ n =>
      have items := decodeItems_returns hc ha (Nat.le_of_succ_le_succ hh)
      simp only [list, Reading.ofJson, items]
      rfl
  sound {n j as} hp h := by
    obtain ⟨k, js, -, rfl, hs⟩ := list_decoded h
    exact decodeItems_sound hc hp hs

end

theorem decodeTexts_returns {seen ms : Table String} (n : Nat)
    (hn : ((seen ++ ms).map (·.1)).Nodup) :
    decodeTexts seen n (Reading.ofMembers (ms.map fun (k, v) => (k, .string v))) =
      .ok (seen ++ ms) := by
  induction ms generalizing seen with
  | nil => rw [List.append_nil]; rfl
  | cons p ms ih =>
    obtain ⟨k, s⟩ := p
    have hk : k ∉ seen.map (·.1) := fun hm => by
      rw [List.map_append, List.nodup_append] at hn
      exact hn.2.2 k hm k List.mem_cons_self rfl
    rw [List.append_cons] at hn ⊢
    rw [← ih hn, ← Table.put_of_not_mem hk]
    rfl

theorem decodeTexts_sound {seen ms : Table String} {n : Nat} {rs : List (Reading × Reading)}
    (hs : (seen.map (·.1)).Nodup) (h : decodeTexts seen n rs = .ok ms) :
    (ms.map (·.1)).Nodup := by
  induction rs generalizing seen with
  | nil => exact Except.ok.inj h ▸ hs
  | cons p rs ih =>
    obtain ⟨k, r⟩ := p
    simp only [decodeTexts, bind_eq_ok] at h
    obtain ⟨key, -, text, -, h⟩ := h
    exact ih (Table.nodup_put hs) h

theorem faithful_texts : texts.Faithful fun ms => (ms.map (·.1)).Nodup where
  returns {n ms} hn h := by
    cases n with
    | zero => cases h
    | succ n =>
      have members : decodeTexts [] n _ = .ok ([] ++ ms) := decodeTexts_returns n hn
      simp only [texts, Reading.ofJson, members]
      rfl
  sound {n j ms} hp h := by
    have empty : (([] : Table String).map (·.1)).Nodup := List.nodup_nil
    cases j with
    | object members =>
      cases n with
      | zero => cases h
      | succ n =>
        simp only [texts, Reading.ofJson, bind_eq_ok, Reading.closedOr_eq_ok] at h
        obtain ⟨_, hs, -, rfl⟩ := h
        exact decodeTexts_sound empty hs
    | _ => cases n <;> cases h

end Codec

theorem map_eq_ok {α β : Type} {f : α → β} {x : Except Fault α} {b : β} :
    f <$> x = .ok b ↔ ∃ a, x = .ok a ∧ f a = b := by
  cases x with
  | ok a =>
    refine ⟨fun h => ⟨a, rfl, Except.ok.inj h⟩, fun ⟨_, ha, h⟩ => ?_⟩
    obtain rfl := Except.ok.inj ha
    exact congrArg Except.ok h
  | error e => exact ⟨nofun, fun ⟨_, ha, _⟩ => nomatch ha⟩

/-- What is written of the field in `a` puts it into any record, as `copy a` does. -/
structure Field.Copies {α : Type} (f : Field α) (fits : α → Prop) (copy : α → α → α) : Prop where
  shown : f.needed = true → ∀ a, f.write a ≠ none
  returns : ∀ {n a j}, fits a → f.write a = some j → j.height ≤ n →
    ∀ b, f.store n (.ofJson j) b = .ok (copy a b)
  absent : ∀ {a}, f.write a = none → ∀ b, copy a b = b
  sound : ∀ {n j a b}, j.Proper → fits a → f.store n (.ofJson j) a = .ok b → fits b

namespace Field.Copies

variable {α β : Type} {fits : α → Prop} {ok : β → Prop} {name : String} {c : Codec β}

variable {get : α → β} {set : α → β → α}

theorem required (hc : c.Faithful ok) (hg : ∀ a, fits a → ok (get a))
    (hs : ∀ a b, fits a → ok b → fits (set a b)) :
    (Field.required name c get set).Copies fits fun a b => set b (get a) where
  shown _ _ := nofun
  returns {n a j} ha hj hh b := by
    obtain rfl := Option.some.inj hj
    exact map_eq_ok.2 ⟨_, hc.returns (hg a ha) hh, rfl⟩
  absent := nofun
  sound {n j a b} hp ha h := by
    obtain ⟨v, hv, rfl⟩ := map_eq_ok.1 h
    exact hs a v ha (hc.sound hp hv)

theorem optional (hc : c.Faithful ok) (hg : ∀ a, fits a → ok (get a))
    (hs : ∀ a b, fits a → ok b → fits (set a b)) :
    (Field.optional name c get set).Copies fits fun a b => set b (get a) :=
  have h : (Field.required name c get set).Copies fits _ := required hc hg hs
  ⟨nofun, h.returns, h.absent, h.sound⟩

theorem required_free (hc : c.Faithful fun _ => True) (hs : ∀ a b, fits a → fits (set a b)) :
    (Field.required name c get set).Copies fits fun a b => set b (get a) :=
  required hc (fun _ _ => trivial) fun a b ha _ => hs a b ha

theorem optional_free (hc : c.Faithful fun _ => True) (hs : ∀ a b, fits a → fits (set a b)) :
    (Field.optional name c get set).Copies fits fun a b => set b (get a) :=
  optional hc (fun _ _ => trivial) fun a b ha _ => hs a b ha

theorem omitted {get : α → Option String} {set : α → Option String → α}
    (hs : ∀ a b, fits a → fits (set a b)) :
    (Field.omitted name .string get set).Copies fits
      fun a b => (get a).elim b fun s => set b (some s) where
  shown := nofun
  returns {n a j} _ hj _ b := by
    obtain ⟨s, hs, rfl⟩ := Option.map_eq_some_iff.1 hj
    rw [hs]
    rfl
  absent {a} ha b := by
    have none : get a = none := Option.map_eq_none_iff.1 ha
    rw [none]
    rfl
  sound {n j a b} _ ha h := by
    obtain ⟨v, -, rfl⟩ := map_eq_ok.1 h
    exact hs a v ha

theorem called {f : Field α} {copy : α → α → α} (other : String) (h : f.Copies fits copy) :
    (f.called other).Copies fits copy :=
  ⟨h.shown, h.returns, h.absent, h.sound⟩

end Field.Copies

namespace Layout

variable {α : Type} {l : Layout α} {fits : α → Prop} {copies : List (α → α → α)} {n : Nat}

def unknown (l : Layout α) (k : String) : Prop := ∀ f ∈ l.fields, f.knows k = false

def filled (a : α) (copies : List (α → α → α)) (b : α) : α :=
  copies.foldl (fun b copy => copy a b) b

def topped (l : Layout α) (a b : α) : α :=
  match l.rest with
  | none => b
  | some (get, keep) => (get a).foldl (fun b p => keep b p.1 p.2) b

/-- A record that fits is made up of what is written of it, and fits however it is changed by what
is read. -/
structure Copies (l : Layout α) (fits : α → Prop) (copies : List (α → α → α)) : Prop where
  apart : l.fields.Pairwise fun f g => f.knows g.name = false
  fields : List.Forall₂ (Field.Copies · fits ·) l.fields copies
  blank : fits l.blank
  all : ∀ a, fits a → l.topped a (filled a copies l.blank) = a
  rest : ∀ get keep, l.rest = some (get, keep) →
    (∀ a, fits a → ∀ p ∈ get a, p.2.Proper ∧ l.unknown p.1) ∧
      ∀ a k j, fits a → j.Proper → l.unknown k → fits (keep a k j)

def members (a : α) (fs : List (Field α)) : Table Json :=
  fs.filterMap fun f => (f.write a).map (f.name, ·)

theorem Field.knows_name (f : Field α) : f.knows f.name = true := by simp [Field.knows]

theorem find?_knows {fs : List (Field α)} (h : fs.Pairwise fun f g => f.knows g.name = false)
    {f : Field α} (hf : f ∈ fs) : fs.find? (·.knows f.name) = some f := by
  induction fs with
  | nil => cases hf
  | cons g fs ih =>
    obtain ⟨hg, h⟩ := List.pairwise_cons.1 h
    obtain rfl | hf := List.mem_cons.1 hf
    · exact List.find?_cons_of_pos (Field.knows_name f)
    · rw [List.find?_cons_of_neg (by simp [hg f hf]), ih h hf]

theorem decodeMembers_known {k : String} {f : Field α} (hf : l.fields.find? (·.knows k) = some f)
    (seen : List String) (b : α) (r : Reading) (rs : List (Reading × Reading)) :
    l.decodeMembers n seen b ((.string k, r) :: rs) =
      if seen.contains f.name then .error .mismatch
      else f.store n r b >>= fun b => l.decodeMembers n (f.name :: seen) b rs := by
  simp only [decodeMembers, Reading.key, bind, Except.bind, hf]

theorem find?_unknown {k : String} (hk : l.unknown k) : l.fields.find? (·.knows k) = none :=
  List.find?_eq_none.2 fun f hf => by simp [hk f hf]

theorem decodeMembers_unknown {k : String} (hk : l.unknown k) {get : α → Table Json}
    {keep : α → String → Json → α} (hl : l.rest = some (get, keep)) (seen : List String) (b : α)
    (r : Reading) (rs : List (Reading × Reading)) :
    l.decodeMembers n seen b ((.string k, r) :: rs) =
      r.content n >>= fun j => l.decodeMembers n seen (keep b k j) rs := by
  simp only [decodeMembers, Reading.key, bind, Except.bind, find?_unknown hk, hl]

theorem decodeMembers_skipped {k : String} (hk : l.unknown k) (hl : l.rest = none)
    (seen : List String) (b : α) (r : Reading) (rs : List (Reading × Reading)) :
    l.decodeMembers n seen b ((.string k, r) :: rs) =
      r.skip >>= fun _ => l.decodeMembers n seen b rs := by
  simp only [decodeMembers, Reading.key, bind, Except.bind, find?_unknown hk, hl]

theorem ofMembers_append (ms ns : Table Json) :
    Reading.ofMembers (ms ++ ns) = Reading.ofMembers ms ++ Reading.ofMembers ns := by
  induction ms with
  | nil => rfl
  | cons p ms ih => rw [List.cons_append, Reading.ofMembers, ih]; rfl

theorem decodeMembers_fields {a b : α} (ha : fits a) {fs : List (Field α)}
    (hf : List.Forall₂ (Field.Copies · fits ·) fs copies)
    (own : ∀ f ∈ fs, l.fields.find? (·.knows f.name) = some f)
    (apart : fs.Pairwise fun f g => f.knows g.name = false) {seen : List String}
    (fresh : ∀ f ∈ fs, f.name ∉ seen) (hh : heightMembers (members a fs) ≤ n)
    (more : List (Reading × Reading)) :
    l.decodeMembers n seen b (Reading.ofMembers (members a fs) ++ more) =
      l.decodeMembers n (((members a fs).map (·.1)).reverse ++ seen) (filled a copies b) more := by
  induction hf generalizing b seen with
  | nil => rfl
  | @cons f copy fs copies hf _ ih =>
    obtain ⟨ownf, own⟩ := List.forall_mem_cons.1 own
    obtain ⟨apartf, apart⟩ := List.pairwise_cons.1 apart
    obtain ⟨freshf, fresh⟩ := List.forall_mem_cons.1 fresh
    -- A field that is not written leaves `b` as it is, which already has what `copy a` would put.
    cases hw : f.write a with
    | none =>
      have hm : members a (f :: fs) = members a fs := by
        simp only [members, List.filterMap_cons, hw, Option.map_none]
      rw [hm] at hh ⊢
      rw [ih own apart fresh hh, filled, filled, List.foldl_cons, hf.absent hw]
    | some j =>
      have hm : members a (f :: fs) = (f.name, j) :: members a fs := by
        simp only [members, List.filterMap_cons, hw, Option.map_some]
      rw [hm, heightMembers, Nat.max_le] at hh
      have freshs : ∀ g ∈ fs, g.name ∉ f.name :: seen := fun g hg hs => by
        obtain he | hs := List.mem_cons.1 hs
        · have hk := apartf g hg
          rw [he, Field.knows_name] at hk
          cases hk
        · exact fresh g hg hs
      rw [hm, Reading.ofMembers, List.cons_append, decodeMembers_known ownf,
        if_neg (by simpa using freshf), hf.returns ha hw hh.1 b]
      show l.decodeMembers n (f.name :: seen) (copy a b) _ = _
      rw [ih own apart freshs hh.2, List.map_cons, List.reverse_cons, List.append_assoc]
      rfl

theorem decodeMembers_rest {get : α → Table Json} {keep : α → String → Json → α}
    (hl : l.rest = some (get, keep)) {ms : Table Json} (hk : ∀ p ∈ ms, p.2.Proper ∧ l.unknown p.1)
    (hh : heightMembers ms ≤ n) (seen : List String) (b : α) :
    l.decodeMembers n seen b (Reading.ofMembers ms) =
      .ok (seen, ms.foldl (fun b p => keep b p.1 p.2) b) := by
  induction ms generalizing b with
  | nil => rfl
  | cons p ms ih =>
    obtain ⟨k, j⟩ := p
    obtain ⟨⟨proper, unknown⟩, hk⟩ := List.forall_mem_cons.1 hk
    rw [heightMembers, Nat.max_le] at hh
    rw [Reading.ofMembers, decodeMembers_unknown unknown hl,
      Reading.content_of_height proper hh.1]
    exact ih hk hh.2 (keep b k j)

theorem heightMembers_append {ms ns : Table Json} :
    heightMembers (ms ++ ns) ≤ n ↔ heightMembers ms ≤ n ∧ heightMembers ns ≤ n := by
  rw [heightMembers_le, heightMembers_le, heightMembers_le, List.forall_mem_append]

def extra (l : Layout α) (a : α) : Table Json :=
  match l.rest with
  | none => []
  | some (get, _) => get a

theorem encode_eq (l : Layout α) (a : α) :
    l.codec.encode a = .object (members a l.fields ++ l.extra a) := by
  unfold extra
  cases hl : l.rest with
  | none => simp only [codec, members, hl]
  | some rest => simp only [codec, members, hl]

/-- A record is read back member by member. -/
theorem decodeMembers_encode (h : l.Copies fits copies) {a : α} (ha : fits a)
    (hh : heightMembers (members a l.fields ++ l.extra a) ≤ n) :
    l.decodeMembers n [] l.blank (Reading.ofMembers (members a l.fields ++ l.extra a)) =
      .ok (((members a l.fields).map (·.1)).reverse, a) := by
  have own : ∀ f ∈ l.fields, l.fields.find? (·.knows f.name) = some f := fun f hf =>
    find?_knows h.apart hf
  have none_seen : ∀ f ∈ l.fields, f.name ∉ ([] : List String) := fun _ _ => List.not_mem_nil
  obtain ⟨hf, hx⟩ := heightMembers_append.1 hh
  rw [ofMembers_append, decodeMembers_fields ha h.fields own h.apart none_seen hf,
    List.append_nil]
  have all := h.all a ha
  unfold topped at all
  unfold extra at hx ⊢
  cases hl : l.rest with
  | none =>
    rw [hl] at all
    exact congrArg (fun b => Except.ok (_, b)) all
  | some rest =>
    obtain ⟨get, keep⟩ := rest
    rw [hl] at all hx
    exact (decodeMembers_rest hl ((h.rest get keep hl).1 a ha) hx _ _).trans
      (congrArg (fun b => Except.ok (_, b)) all)

theorem exists_copy {fs : List (Field α)} (h : List.Forall₂ (Field.Copies · fits ·) fs copies)
    {f : Field α} (hf : f ∈ fs) : ∃ copy, f.Copies fits copy := by
  induction h with
  | nil => cases hf
  | cons hc _ ih =>
    obtain rfl | hf := List.mem_cons.1 hf
    · exact ⟨_, hc⟩
    · exact ih hf

theorem mem_names_of_needed (h : l.Copies fits copies) {f : Field α} (hf : f ∈ l.fields)
    (needed : f.needed = true) (a : α) : f.name ∈ (members a l.fields).map (·.1) := by
  obtain ⟨copy, hc⟩ := exists_copy h.fields hf
  obtain ⟨j, hj⟩ := Option.ne_none_iff_exists'.1 (hc.shown needed a)
  exact List.mem_map.2 ⟨(f.name, j), List.mem_filterMap.2 ⟨f, hf, by rw [hj]; rfl⟩, rfl⟩

theorem sound_members (h : l.Copies fits copies) {seen seen' : List String} {b c : α}
    {ms : Table Json} (hb : fits b) (hp : ProperMembers ms)
    (hd : l.decodeMembers n seen b (Reading.ofMembers ms) = .ok (seen', c)) : fits c := by
  induction ms generalizing seen b with
  | nil =>
    obtain ⟨-, rfl⟩ := Prod.mk.inj (Except.ok.inj hd)
    exact hb
  | cons p ms ih =>
    obtain ⟨k, j⟩ := p
    rw [Reading.ofMembers] at hd
    cases hf : l.fields.find? (·.knows k) with
    | some f =>
      obtain ⟨copy, hc⟩ := exists_copy h.fields (List.mem_of_find?_eq_some hf)
      rw [decodeMembers_known hf] at hd
      split at hd
      · cases hd
      · obtain ⟨b', hs, hd⟩ := bind_eq_ok.1 hd
        exact ih (hc.sound hp.1 hb hs) hp.2 hd
    | none =>
      have unknown : l.unknown k := fun f hm => by simpa using List.find?_eq_none.1 hf f hm
      cases hl : l.rest with
      | none =>
        rw [decodeMembers_skipped unknown hl] at hd
        obtain ⟨_, -, hd⟩ := bind_eq_ok.1 hd
        exact ih hb hp.2 hd
      | some rest =>
        obtain ⟨get, keep⟩ := rest
        rw [decodeMembers_unknown unknown hl] at hd
        obtain ⟨j', hj, hm⟩ := bind_eq_ok.1 hd
        rw [Reading.content_ofJson hp.1 hj] at hm
        exact ih ((h.rest get keep hl).2 b k j hb hp.1 unknown) hp.2 hm

theorem sound_row {fs : List (Field α)} (hf : ∀ f ∈ fs, ∃ copy, f.Copies fits copy) {b c : α}
    {js : List Json} {closed : Bool} (hb : fits b) (hp : ProperItems js)
    (hd : decodeRow n b fs (Reading.ofItems js) closed = .ok c) : fits c := by
  induction fs generalizing b js with
  | nil =>
    rw [decodeRow] at hd
    split at hd
    · exact Except.ok.inj hd ▸ hb
    · cases hd
  | cons f fs ih =>
    obtain ⟨⟨copy, hc⟩, hf⟩ := List.forall_mem_cons.1 hf
    cases js with
    | nil =>
      rw [Reading.ofItems, decodeRow] at hd
      · split at hd
        · cases hd
        · split at hd
          · cases hd
          · exact Except.ok.inj hd ▸ hb
      · exact nofun
    | cons j js =>
      rw [Reading.ofItems, decodeRow] at hd
      obtain ⟨b', hs, hd⟩ := bind_eq_ok.1 hd
      exact ih hf (hc.sound hp.1 hb hs) hp.2 hd

theorem faithful (h : l.Copies fits copies) : l.codec.Faithful fits where
  returns {n a} ha hh := by
    rw [encode_eq] at hh ⊢
    cases n with
    | zero => cases hh
    | succ n =>
      refine bind_eq_ok.2 ⟨_, decodeMembers_encode h ha (Nat.le_of_succ_le_succ hh), ?_⟩
      have complete : l.missing ((members a l.fields).map (·.1)).reverse = false := by
        refine List.any_eq_false.2 fun f hf => ?_
        cases hn : f.needed with
        | false => simp
        | true => simpa using mem_names_of_needed h hf hn a
      simp only [Bool.not_true, Bool.false_eq_true, if_false, complete]
  sound {n j a} hp hd := by
    cases j with
    | object ms =>
      cases n with
      | zero => cases hd
      | succ n =>
        obtain ⟨⟨seen, b⟩, hm, hb⟩ := bind_eq_ok.1 hd
        have fitting := sound_members h h.blank hp.2 hm
        simp only [Bool.not_true, Bool.false_eq_true, if_false] at hb
        split at hb
        · cases hb
        · exact Except.ok.inj hb ▸ fitting
    | array js =>
      cases n with
      | zero =>
        simp only [codec, Reading.ofJson] at hd
        split at hd <;> cases hd
      | succ n =>
        simp only [codec, Reading.ofJson] at hd
        split at hd
        · cases hd
        · exact sound_row (fun f hf => exists_copy h.fields hf) h.blank hp hd
    | _ => cases n <;> cases hd

end Layout

structure Layout.Strays {α : Type} (l : Layout α) (ms : Table Json) : Prop where
  distinct : (ms.map (·.1)).Nodup
  members : ∀ p ∈ ms, p.2.Proper ∧ l.unknown p.1

namespace Layout.Strays

variable {α : Type} {l : Layout α} {ms : Table Json}

theorem nil : l.Strays [] := ⟨List.nodup_nil, nofun⟩

theorem put (h : l.Strays ms) {k : String} {j : Json} (hj : j.Proper) (hk : l.unknown k) :
    l.Strays (ms.put k j) := by
  refine ⟨Table.nodup_put h.distinct, fun p hp => ?_⟩
  obtain rfl | hp := Table.mem_put hp
  · exact ⟨hj, hk⟩
  · exact h.members p hp

variable {get : α → Table Json}

theorem foldl_put {set : α → Table Json → α} (get_set : ∀ a t, get (set a t) = t)
    (set_set : ∀ a t u, set (set a t) u = set a u) (b : α) {seen ms : Table Json}
    (hn : ((seen ++ ms).map (·.1)).Nodup) :
    ms.foldl (fun b p => set b ((get b).put p.1 p.2)) (set b seen) = set b (seen ++ ms) := by
  induction ms generalizing seen with
  | nil => rw [List.append_nil]; rfl
  | cons p ms ih =>
    have hk : p.1 ∉ seen.map (·.1) := fun hm => by
      rw [List.map_append, List.nodup_append] at hn
      exact hn.2.2 p.1 hm p.1 List.mem_cons_self rfl
    rw [List.append_cons] at hn
    rw [List.append_cons seen p ms, List.foldl_cons, get_set, set_set, Table.put_of_not_mem hk]
    exact ih hn

theorem topped (set : α → Table Json → α)
    (hl : l.rest = some (get, fun a k j => set a ((get a).put k j)))
    (get_set : ∀ a t, get (set a t) = t) (set_set : ∀ a t u, set (set a t) u = set a u) {a : α}
    (h : l.Strays (get a)) (b : α) : l.topped a (set b []) = set b (get a) := by
  have distinct : ((([] : Table Json) ++ get a).map (·.1)).Nodup := h.distinct
  unfold Layout.topped
  rw [hl]
  exact foldl_put get_set set_set b distinct

end Layout.Strays

namespace Variant

variable {α β : Type} {fits : α → Prop} {ok : β → Prop}

/-- Whatever is written of the alternative is read as what it was written of. -/
def Returns (fits : α → Prop) : Variant α → Prop
  | .unit _ a => fits a
  | .holding _ write read =>
    (∀ {n a j}, fits a → write a = some j → j.height ≤ n → read n (.ofJson j) = .ok a) ∧
      ∀ {n j a}, j.Proper → read n (.ofJson j) = .ok a → fits a

theorem Returns.payload {name : String} {c : Codec β} {get : α → Option β} {make : β → α}
    (hc : c.Faithful ok) (hg : ∀ a b, fits a → get a = some b → ok b ∧ make b = a)
    (hm : ∀ b, ok b → fits (make b)) : (Variant.payload name c get make).Returns fits := by
  constructor
  · intro n a j ha hj hh
    obtain ⟨b, hb, rfl⟩ := Option.map_eq_some_iff.1 hj
    obtain ⟨fits, rfl⟩ := hg a b ha hb
    exact map_eq_ok.2 ⟨b, hc.returns fits hh, rfl⟩
  · intro n j a hp h
    obtain ⟨b, hb, rfl⟩ := map_eq_ok.1 h
    exact hm b (hc.sound hp hb)

variable {vs : List (Variant α)}

theorem find?_name (distinct : (vs.map name).Nodup) {v : Variant α} (hv : v ∈ vs) :
    vs.find? (·.name = v.name) = some v := by
  cases h : vs.find? (·.name = v.name) with
  | none => exact absurd (List.find?_eq_none.1 h v hv) (by simp)
  | some u =>
    have hu : u.name = v.name := by simpa using List.find?_some h
    rw [List.inj_on_of_nodup_map distinct (List.mem_of_find?_eq_some h) hv hu]

theorem faithful [DecidableEq α] (distinct : (vs.map name).Nodup)
    (h : ∀ v ∈ vs, v.Returns fits) (cover : ∀ a, fits a → ∃ v ∈ vs, written a v ≠ none) :
    (codec vs).Faithful fits where
  returns {n a} ha hh := by
    obtain ⟨j, hj⟩ : ∃ j, vs.findSome? (written a) = some j := by
      obtain ⟨v, hv, hw⟩ := cover a ha
      refine Option.isSome_iff_exists.1 (List.findSome?_isSome_iff.2 ⟨v, hv, ?_⟩)
      exact Option.isSome_iff_ne_none.2 hw
    have he : (codec vs).encode a = j := by simp only [codec, hj, Option.getD_some]
    rw [he] at hh ⊢
    obtain ⟨v, hv, hw⟩ := List.exists_of_findSome?_eq_some hj
    cases v with
    | unit name b =>
      have found : vs.find? (·.name = name) = some (.unit name b) := find?_name distinct hv
      simp only [written] at hw
      split at hw
      · obtain rfl := Option.some.inj hw
        subst b
        simp only [codec, Reading.ofJson, found]
      · cases hw
    | holding name write read =>
      have found : vs.find? (·.name = name) = some (.holding name write read) :=
        find?_name distinct hv
      obtain ⟨i, hi, rfl⟩ := Option.map_eq_some_iff.1 hw
      rw [height, heightMembers, heightMembers, Nat.max_zero] at hh
      cases n with
      | zero => cases hh
      | succ n =>
        have returned := (h _ hv).1 ha hi (Nat.le_of_succ_le_succ hh)
        simp only [codec, Reading.ofJson, Reading.ofMembers, decodeTagged, Codec.string, bind,
          Except.bind, found, returned]
        rfl
  sound {n j a} hp hd := by
    cases j with
    | string s =>
      simp only [codec, Reading.ofJson] at hd
      split at hd
      · rename_i b hb
        exact Except.ok.inj hd ▸ h _ (List.mem_of_find?_eq_some hb)
      · cases hd
    | object ms =>
      cases n with
      | zero => cases hd
      | succ n =>
        cases ms with
        | nil => cases hd
        | cons p ms =>
          obtain ⟨k, j⟩ := p
          simp only [codec, Reading.ofJson, Reading.ofMembers, decodeTagged, Codec.string, bind,
            Except.bind] at hd
          cases hf : vs.find? (·.name = k) with
          | none =>
            rw [hf] at hd
            cases hd
          | some v =>
            have hv := h v (List.mem_of_find?_eq_some hf)
            rw [hf] at hd
            cases v with
            | unit name b =>
              cases j with
              | null => exact (Reading.closedOr_eq_ok.1 hd).2 ▸ hv
              | _ => cases hd
            | holding name write read =>
              obtain ⟨b, hb, hc⟩ := bind_eq_ok.1 hd
              exact (Reading.closedOr_eq_ok.1 hc).2 ▸ hv.2 hp.2.1 hb
    | _ => cases n <;> cases hd

end Variant

end StorageDriver.Json
