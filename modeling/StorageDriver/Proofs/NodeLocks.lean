import StorageDriver.Proofs.NodeTurns

namespace StorageDriver

section

variable {α : Type} {l : List α} {i j : Nat} {a b : α}

theorem two_le_countP {p : α → Bool} (hi : l[i]? = some a) (hj : l[j]? = some b) (hij : j ≠ i)
    (ha : p a = true) (hb : p b = true) : 2 ≤ l.countP p := by
  induction l generalizing i j with
  | nil => simp at hi
  | cons x l ih =>
    rw [List.countP_cons]
    cases i with
    | zero =>
      obtain rfl : x = a := by simpa using hi
      obtain ⟨j, rfl⟩ := Nat.exists_eq_succ_of_ne_zero hij
      have hm : b ∈ l := List.mem_of_getElem? (i := j) (by simpa using hj)
      have hc : 0 < l.countP p := List.countP_pos_iff.2 ⟨b, hm, hb⟩
      rw [if_pos ha]
      omega
    | succ i =>
      cases j with
      | zero =>
        obtain rfl : x = b := by simpa using hj
        have hm : a ∈ l := List.mem_of_getElem? (i := i) (by simpa using hi)
        have hc : 0 < l.countP p := List.countP_pos_iff.2 ⟨a, hm, ha⟩
        rw [if_pos hb]
        omega
      | succ j =>
        have hc := ih (i := i) (j := j) (by simpa using hi) (by simpa using hj) (by omega)
        omega

end

namespace Nodes

theorem length_changeLock (n : Nodes) (l : Nat) (f : Lock → Lock) :
    (n.changeLock l f).made.length = n.made.length :=
  List.length_modify _ _ _

theorem lock_changeLock (n : Nodes) {l : Nat} (f : Lock → Lock) (h : l < n.made.length) (k : Nat) :
    (n.changeLock l f).lock k = if l = k then f (n.lock k) else n.lock k := by
  unfold lock changeLock
  by_cases hk : l = k
  · subst hk
    simp [List.getD_eq_getElem?_getD, h]
  · simp [List.getD_eq_getElem?_getD, hk]

theorem lock_changeLock_self (n : Nodes) {l : Nat} (f : Lock → Lock) (h : l < n.made.length) :
    (n.changeLock l f).lock l = f (n.lock l) :=
  (n.lock_changeLock f h l).trans (if_pos rfl)

end Nodes

namespace Spot

def claim? : Spot → Option Nat
  | waiting l | entered l | inside l _ | tidying l _ | leaving l _ => some l
  | _ => none

def bound? : Spot → Option Nat
  | waiting l | entered l | inside l _ | tidying l _ => some l
  | _ => none

def hold? : Spot → Option Nat
  | entered l | inside l _ => some l
  | _ => none

/-- Only who unregisters asks first, and with the lock held nothing is done but what it is for. -/
def IsCareful (name : String) (e : Errand) : Spot → Prop
  | asking => e = .unregister
  | inside _ p => p.All (e.Keeps name)
  | _ => True

theorem bound_of_hold {s : Spot} {l : Nat} (h : s.hold? = some l) : s.bound? = some l := by
  cases s <;> first | exact h | cases h

theorem claim_of_bound {s : Spot} {l : Nat} (h : s.bound? = some l) : s.claim? = some l := by
  cases s <;> first | exact h | cases h

end Spot

def claimants (vs : List (Errand × Spot)) (l : Nat) : Nat := vs.countP fun v => v.2.claim? = some l

/-- The lock `l` counts those who claim it and knows whether it is held. -/
structure Fits (n : Nodes) (vs : List (Errand × Spot)) (l : Nat) : Prop where
  made : l < n.made.length
  claims : (n.lock l).claims = claimants vs l
  held : (n.lock l).held = true ↔
    ∃ (j : Nat) (e : Errand) (s : Spot), vs[j]? = some (e, s) ∧ s.hold? = some l

/-- Whoever needs the lock of `name` claims the one in the table, and at most one errand holds
it. -/
structure Guarded (name : String) (n : Nodes) (vs : List (Errand × Spot)) : Prop where
  careful : ∀ (j : Nat) (e : Errand) (s : Spot), vs[j]? = some (e, s) → s.IsCareful name e
  made : ∀ (j : Nat) (e : Errand) (s : Spot) (l : Nat), vs[j]? = some (e, s) →
    s.claim? = some l → l < n.made.length
  bound : ∀ (j : Nat) (e : Errand) (s : Spot) (l : Nat), vs[j]? = some (e, s) →
    s.bound? = some l → n.locks.get? name = some l
  alone : ∀ (i j : Nat) (d e : Errand) (s t : Spot) (k l : Nat), vs[i]? = some (d, s) →
    vs[j]? = some (e, t) → s.hold? = some k → t.hold? = some l → i = j
  fits : ∀ l, n.locks.get? name = some l → Fits n vs l

namespace Guarded

variable {name : String} {n m : Nodes} {vs : List (Errand × Spot)} {i : Nat} {e : Errand}
  {s t : Spot}

theorem set (h : Guarded name n vs) (hi : vs[i]? = some (e, s)) (hc : t.IsCareful name e)
    (hm : n.made.length ≤ m.made.length)
    (claim : ∀ l, t.claim? = some l → l < m.made.length)
    (own : ∀ l, t.bound? = some l → m.locks.get? name = some l)
    (bound : ∀ (j : Nat) (d : Errand) (u : Spot) (l : Nat), j ≠ i → vs[j]? = some (d, u) →
      u.bound? = some l → m.locks.get? name = some l)
    (alone : ∀ k, t.hold? = some k → ∀ (j : Nat) (d : Errand) (u : Spot) (l : Nat), j ≠ i →
      vs[j]? = some (d, u) → u.hold? ≠ some l)
    (fits : ∀ l, m.locks.get? name = some l → Fits m (vs.set i (e, t)) l) :
    Guarded name m (vs.set i (e, t)) := by
  refine ⟨fun j d u hj => ?_, fun j d u l hj hl => ?_, fun j d u l hj hl => ?_,
    fun j₁ j₂ d₁ d₂ u₁ u₂ k l h₁ h₂ hk hl => ?_, fits⟩
  · obtain ⟨-, hu⟩ | ⟨-, hj⟩ := (getElem?_set_iff hi).1 hj
    · obtain ⟨rfl, rfl⟩ := Prod.mk.inj hu
      exact hc
    · exact h.careful j d u hj
  · obtain ⟨-, hu⟩ | ⟨-, hj⟩ := (getElem?_set_iff hi).1 hj
    · obtain ⟨rfl, rfl⟩ := Prod.mk.inj hu
      exact claim l hl
    · exact Nat.lt_of_lt_of_le (h.made j d u l hj hl) hm
  · obtain ⟨-, hu⟩ | ⟨hn, hj⟩ := (getElem?_set_iff hi).1 hj
    · obtain ⟨rfl, rfl⟩ := Prod.mk.inj hu
      exact own l hl
    · exact bound j d u l hn hj hl
  · obtain ⟨rfl, hu₁⟩ | ⟨hn₁, g₁⟩ := (getElem?_set_iff hi).1 h₁
    · obtain ⟨rfl, rfl⟩ := Prod.mk.inj hu₁
      obtain ⟨rfl, -⟩ | ⟨hn₂, g₂⟩ := (getElem?_set_iff hi).1 h₂
      · rfl
      · exact absurd hl (alone k hk j₂ d₂ u₂ l hn₂ g₂)
    · obtain ⟨rfl, hu₂⟩ | ⟨hn₂, g₂⟩ := (getElem?_set_iff hi).1 h₂
      · obtain ⟨rfl, rfl⟩ := Prod.mk.inj hu₂
        exact absurd hk (alone l hl j₁ d₁ u₁ k hn₁ g₁)
      · exact h.alone j₁ j₂ d₁ d₂ u₁ u₂ k l g₁ g₂ hk hl

end Guarded

section

variable {vs : List (Errand × Spot)} {i : Nat} {e : Errand} {s : Spot}

theorem claimants_set (hi : vs[i]? = some (e, s)) (t : Spot) (l : Nat) :
    claimants (vs.set i (e, t)) l + (decide (s.claim? = some l)).toNat =
      claimants vs l + (decide (t.claim? = some l)).toNat :=
  countP_set_add hi _ _

theorem claimants_keep (hi : vs[i]? = some (e, s)) {t : Spot} {l : Nat}
    (h : t.claim? = some l ↔ s.claim? = some l) :
    claimants (vs.set i (e, t)) l = claimants vs l := by
  have hs := claimants_set hi t l
  rw [decide_eq_decide.2 h] at hs
  omega

theorem claimants_claim (hi : vs[i]? = some (e, s)) {t : Spot} {l : Nat} (hs : s.claim? ≠ some l)
    (ht : t.claim? = some l) : claimants (vs.set i (e, t)) l = claimants vs l + 1 := by
  have h := claimants_set hi t l
  rwa [decide_eq_false hs, decide_eq_true ht] at h

theorem claimants_disclaim (hi : vs[i]? = some (e, s)) {t : Spot} {l : Nat}
    (hs : s.claim? = some l) (ht : t.claim? ≠ some l) :
    claimants (vs.set i (e, t)) l + 1 = claimants vs l := by
  have h := claimants_set hi t l
  rwa [decide_eq_true hs, decide_eq_false ht] at h

theorem holder_set (hi : vs[i]? = some (e, s)) (t : Spot) (l : Nat) :
    (∃ (j : Nat) (d : Errand) (u : Spot), (vs.set i (e, t))[j]? = some (d, u) ∧ u.hold? = some l) ↔
      t.hold? = some l ∨
        ∃ (j : Nat) (d : Errand) (u : Spot), j ≠ i ∧ vs[j]? = some (d, u) ∧ u.hold? = some l := by
  constructor
  · rintro ⟨j, d, u, hj, hu⟩
    obtain ⟨-, hv⟩ | ⟨hn, hj⟩ := (getElem?_set_iff hi).1 hj
    · obtain ⟨rfl, rfl⟩ := Prod.mk.inj hv
      exact .inl hu
    · exact .inr ⟨j, d, u, hn, hj, hu⟩
  · rintro (ht | ⟨j, d, u, hn, hj, hu⟩)
    · exact ⟨i, e, t, (getElem?_set_iff hi).2 (.inl ⟨rfl, rfl⟩), ht⟩
    · exact ⟨j, d, u, (getElem?_set_iff hi).2 (.inr ⟨hn, hj⟩), hu⟩

theorem holder_set_of_eq (hi : vs[i]? = some (e, s)) {t : Spot} (l : Nat)
    (ht : t.hold? = some l ↔ s.hold? = some l) :
    (∃ (j : Nat) (d : Errand) (u : Spot), (vs.set i (e, t))[j]? = some (d, u) ∧ u.hold? = some l) ↔
      ∃ (j : Nat) (d : Errand) (u : Spot), vs[j]? = some (d, u) ∧ u.hold? = some l := by
  rw [holder_set hi]
  constructor
  · rintro (hl | ⟨j, d, u, -, hj, hu⟩)
    · exact ⟨i, e, s, hi, ht.1 hl⟩
    · exact ⟨j, d, u, hj, hu⟩
  · rintro ⟨j, d, u, hj, hu⟩
    by_cases hn : j = i
    · subst hn
      obtain ⟨rfl, rfl⟩ := Prod.mk.inj (Option.some.inj (hi.symm.trans hj))
      exact .inl (ht.2 hu)
    · exact .inr ⟨j, d, u, hn, hj, hu⟩

end

namespace Guarded

variable {name : String} {n m : Nodes} {vs : List (Errand × Spot)} {i : Nat} {e : Errand}
  {s t : Spot}

theorem alone_of_hold (h : Guarded name n vs) (hi : vs[i]? = some (e, s)) {l : Nat}
    (hl : s.hold? = some l) (j : Nat) (d : Errand) (u : Spot) (k : Nat) (hn : j ≠ i)
    (hj : vs[j]? = some (d, u)) : u.hold? ≠ some k :=
  fun hk => hn (h.alone j i d e u s k l hj hi hk hl)

theorem move (h : Guarded name n vs) (hi : vs[i]? = some (e, s)) (hc : t.IsCareful name e)
    (hm : m.locks = n.locks ∧ m.made = n.made) (h₁ : t.claim? = s.claim?)
    (h₂ : t.bound? = s.bound?) (h₃ : t.hold? = s.hold?) : Guarded name m (vs.set i (e, t)) := by
  refine h.set hi hc (Nat.le_of_eq (congrArg _ hm.2.symm)) (fun l hl => ?_) (fun l hl => ?_)
    (fun j d u l _ hj hu => ?_) (fun k hk => ?_) (fun l hl => ?_)
  · rw [hm.2]
    exact h.made i e s l hi (h₁ ▸ hl)
  · rw [hm.1]
    exact h.bound i e s l hi (h₂ ▸ hl)
  · rw [hm.1]
    exact h.bound j d u l hj hu
  · exact fun j d u l => h.alone_of_hold hi (h₃ ▸ hk) j d u l
  · have hf := h.fits l (hm.1 ▸ hl)
    have hk : m.lock l = n.lock l := by rw [Nodes.lock, hm.2, Nodes.lock]
    refine ⟨hm.2 ▸ hf.made, ?_, ?_⟩
    · rw [hk, hf.claims, claimants_keep hi (by rw [h₁])]
    · rw [hk, hf.held, holder_set_of_eq hi l (by rw [h₃])]

theorem claim_old (h : Guarded name n vs) (hi : vs[i]? = some (e, .claiming)) {l : Nat}
    (hl : n.locks.get? name = some l) :
    Guarded name (n.changeLock l fun c => { c with claims := c.claims + 1 })
      (vs.set i (e, .waiting l)) := by
  have hf := h.fits l hl
  have hm := n.length_changeLock l fun c => { c with claims := c.claims + 1 }
  have hk := n.lock_changeLock_self (fun c => { c with claims := c.claims + 1 }) hf.made
  refine h.set hi trivial (Nat.le_of_eq hm.symm) (fun k hc => ?_) (fun k hc => ?_)
    (fun j d u k _ hj hu => h.bound j d u k hj hu) (fun _ hc => nomatch hc) (fun k hc => ?_)
  · obtain rfl : l = k := Option.some.inj hc
    exact hm.symm ▸ hf.made
  · obtain rfl : l = k := Option.some.inj hc
    exact hl
  · obtain rfl : l = k := Option.some.inj (hl.symm.trans hc)
    refine ⟨hm.symm ▸ hf.made, ?_, ?_⟩
    · rw [hk, claimants_claim hi nofun rfl, ← hf.claims]
    · rw [hk, holder_set_of_eq hi l (by simp [Spot.hold?])]
      exact hf.held

theorem claim_new (h : Guarded name n vs) (hi : vs[i]? = some (e, .claiming))
    (hl : n.locks.get? name = none) :
    Guarded name { n with
        locks := n.locks.put name n.made.length
        made := n.made ++ [{ claims := 1 }] }
      (vs.set i (e, .waiting n.made.length)) := by
  have fresh : ∀ (j : Nat) (d : Errand) (u : Spot), vs[j]? = some (d, u) →
      u.claim? ≠ some n.made.length :=
    fun j d u hj hu => Nat.lt_irrefl _ (h.made j d u _ hj hu)
  have unbound : ∀ (j : Nat) (d : Errand) (u : Spot) (k : Nat), vs[j]? = some (d, u) →
      u.bound? ≠ some k :=
    fun j d u k hj hu => nomatch hl.symm.trans (h.bound j d u k hj hu)
  refine h.set hi trivial (by simp) (fun k hc => ?_) (fun k hc => ?_)
    (fun j d u k _ hj hu => absurd hu (unbound j d u k hj)) (fun _ hc => nomatch hc)
    (fun k hc => ?_)
  · obtain rfl : n.made.length = k := Option.some.inj hc
    simp
  · obtain rfl : n.made.length = k := Option.some.inj hc
    simp
  · obtain rfl : n.made.length = k := by simpa using hc
    have hn : claimants vs n.made.length = 0 := by
      refine List.countP_eq_zero.2 fun v hv => ?_
      obtain ⟨j, hj⟩ := List.mem_iff_getElem?.1 hv
      simpa using fresh j v.1 v.2 hj
    have hk : Nodes.lock { n with
        locks := n.locks.put name n.made.length
        made := n.made ++ [{ claims := 1 }] } n.made.length = { claims := 1 } := by
      simp [Nodes.lock, List.getD_eq_getElem?_getD]
    refine ⟨by simp, ?_, ?_⟩
    · rw [hk, claimants_claim hi nofun rfl, hn]
    · rw [hk]
      refine iff_of_false nofun ?_
      rw [holder_set hi]
      rintro (hc | ⟨j, d, u, -, hj, hu⟩)
      · cases hc
      · exact unbound j d u _ hj (Spot.bound_of_hold hu)

theorem claim (h : Guarded name n vs) (hi : vs[i]? = some (e, .claiming)) :
    Guarded name (n.apply (.claim name)).2
      (vs.set i (e, .waiting (n.apply (.claim name)).1)) := by
  cases hl : n.locks.get? name with
  | some l => simpa only [Nodes.apply, hl] using h.claim_old hi hl
  | none => simpa only [Nodes.apply, hl] using h.claim_new hi hl

theorem acquire {l : Nat} (h : Guarded name n vs) (hi : vs[i]? = some (e, .waiting l))
    (hl : (n.lock l).held = false) :
    Guarded name (n.apply (.acquire l)).2 (vs.set i (e, .entered l)) := by
  have hb := h.bound i e _ l hi rfl
  have hf := h.fits l hb
  have nobody : ∀ (j : Nat) (d : Errand) (u : Spot) (k : Nat), vs[j]? = some (d, u) →
      u.hold? ≠ some k := by
    intro j d u k hj hu
    have hk := h.bound j d u k hj (Spot.bound_of_hold hu)
    obtain rfl : l = k := Option.some.inj (hb.symm.trans hk)
    exact nomatch hl.symm.trans (hf.held.2 ⟨j, d, u, hj, hu⟩)
  have hm := n.length_changeLock l fun c => { c with held := true }
  have hk := n.lock_changeLock_self (fun c => { c with held := true }) hf.made
  refine h.set hi trivial (Nat.le_of_eq hm.symm) (fun k hc => ?_) (fun k hc => ?_)
    (fun j d u k _ hj hu => h.bound j d u k hj hu) (fun _ _ j d u k _ hj => nobody j d u k hj)
    (fun k hc => ?_)
  · obtain rfl : l = k := Option.some.inj hc
    exact hm.symm ▸ hf.made
  · obtain rfl : l = k := Option.some.inj hc
    exact hb
  · obtain rfl : l = k := Option.some.inj (hb.symm.trans hc)
    refine ⟨hm.symm ▸ hf.made, ?_, ?_⟩
    · rw [claimants_keep hi (by simp [Spot.claim?]), ← hf.claims]
      show ((n.changeLock l _).lock l).claims = _
      rw [hk]
    · refine iff_of_true ?_ ⟨i, e, _, (getElem?_set_iff hi).2 (.inl ⟨rfl, rfl⟩), rfl⟩
      exact congrArg Nodes.Lock.held hk

theorem release {l : Nat} {r : Except Error Unit} (h : Guarded name n vs)
    (hi : vs[i]? = some (e, .inside l (.done r))) :
    Guarded name (n.apply (.release l)).2 (vs.set i (e, e.released l r)) := by
  have hb := h.bound i e _ l hi rfl
  have hf := h.fits l hb
  have hm := n.length_changeLock l fun c => { c with held := false }
  have hk := n.lock_changeLock_self (fun c => { c with held := false }) hf.made
  have hc : (e.released l r).claim? = some l := by cases e <;> rfl
  have hu : (e.released l r).hold? = none := by cases e <;> rfl
  refine h.set hi (by cases e <;> trivial) (Nat.le_of_eq hm.symm) (fun k hk' => ?_)
    (fun k hk' => ?_) (fun j d u k _ hj hu => h.bound j d u k hj hu)
    (fun _ hk' => nomatch hu.symm.trans hk') (fun k hk' => ?_)
  · obtain rfl : l = k := Option.some.inj (hc.symm.trans hk')
    exact hm.symm ▸ hf.made
  · obtain rfl : l = k := Option.some.inj (hc.symm.trans (Spot.claim_of_bound hk'))
    exact hb
  · obtain rfl : l = k := Option.some.inj (hb.symm.trans hk')
    refine ⟨hm.symm ▸ hf.made, ?_, ?_⟩
    · rw [claimants_keep hi (iff_of_true hc rfl), ← hf.claims]
      show ((n.changeLock l _).lock l).claims = _
      rw [hk]
    · refine iff_of_false ?_ ?_
      · exact fun hh => nomatch (congrArg Nodes.Lock.held hk).symm.trans hh
      · rw [holder_set hi]
        rintro (hh | ⟨j, d, u, hn, hj, hh⟩)
        · exact nomatch hu.symm.trans hh
        · exact h.alone_of_hold hi rfl j d u l hn hj hh

/-- While two errands claim it the lock stays. -/
theorem claims_of_bound {l : Nat} (h : Guarded name n vs) (hi : vs[i]? = some (e, s))
    (hs : s.claim? = some l) (hl : n.locks.get? name = some l) {j : Nat} {d : Errand} {u : Spot}
    (hn : j ≠ i) (hj : vs[j]? = some (d, u)) (hu : u.claim? = some l) : 2 ≤ (n.lock l).claims := by
  rw [(h.fits l hl).claims]
  exact two_le_countP hi hj hn (decide_eq_true hs) (decide_eq_true hu)

theorem retire {l : Nat} {r : Except Error Unit} (h : Guarded name n vs)
    (hi : vs[i]? = some (e, .tidying l r)) :
    Guarded name (n.apply (.retire name)).2 (vs.set i (e, .leaving l r)) := by
  have hb := h.bound i e _ l hi rfl
  have hf := h.fits l hb
  simp only [Nodes.apply, hb]
  split
  · rename_i hc
    refine h.set hi trivial (Nat.le_refl _) (fun k hk => ?_) (by simp [Spot.bound?])
      (fun j d u k hn hj hu => ?_) (by simp [Spot.hold?]) (fun k hk => ?_)
    · obtain rfl : l = k := Option.some.inj hk
      exact hf.made
    · obtain rfl : l = k := Option.some.inj (hb.symm.trans (h.bound j d u k hj hu))
      have hk := h.claims_of_bound hi rfl hb hn hj (Spot.claim_of_bound hu)
      omega
    · simp at hk
  · refine h.set hi trivial (Nat.le_refl _) (fun k hk => ?_) (by simp [Spot.bound?])
      (fun j d u k _ hj hu => h.bound j d u k hj hu) (by simp [Spot.hold?]) (fun k hk => ?_)
    · obtain rfl : l = k := Option.some.inj hk
      exact hf.made
    · have hf := h.fits k hk
      refine ⟨hf.made, ?_, ?_⟩
      · rw [claimants_keep hi (by simp [Spot.claim?]), ← hf.claims]
      · rw [holder_set_of_eq hi k (by simp [Spot.hold?])]
        exact hf.held

theorem disclaim {l : Nat} {r : Except Error Unit} (h : Guarded name n vs)
    (hi : vs[i]? = some (e, .leaving l r)) :
    Guarded name (n.apply (.disclaim l)).2 (vs.set i (e, .gone r)) := by
  have hl := h.made i e _ l hi rfl
  have hm := n.length_changeLock l fun c => { c with claims := c.claims - 1 }
  have hk := n.lock_changeLock (fun c => { c with claims := c.claims - 1 }) hl
  refine h.set hi trivial (Nat.le_of_eq hm.symm) nofun nofun
    (fun j d u k _ hj hu => h.bound j d u k hj hu) (fun _ hk => nomatch hk) (fun k hc => ?_)
  have hf := h.fits k hc
  refine ⟨hm.symm ▸ hf.made, (congrArg Nodes.Lock.claims (hk k)).trans ?_, ?_⟩
  · by_cases hlk : l = k
    · subst hlk
      have hs := claimants_disclaim hi (t := .gone r) rfl nofun
      rw [if_pos rfl]
      have hc := hf.claims
      show (n.lock l).claims - 1 = _
      omega
    · rw [if_neg hlk, claimants_keep hi (by simp [Spot.claim?, hlk]), hf.claims]
  · rw [holder_set_of_eq hi k (by simp [Spot.hold?]), ← hf.held]
    refine iff_of_eq (congrArg (· = true) ((congrArg Nodes.Lock.held (hk k)).trans ?_))
    split <;> rfl

theorem turn {o : (a : Action) → a.Answer} {a : Action} {x : a.Answer} (h : Guarded name n vs)
    (hi : vs[i]? = some (e, s)) (ht : Turn name o e n s a x t m) :
    Guarded name m (vs.set i (e, t)) := by
  cases ht with
  | miss | ask => exact h.move hi trivial ⟨rfl, rfl⟩ rfl rfl rfl
  | claim => exact h.claim hi
  | acquire hl => exact h.acquire hi hl
  | @begin l next hb =>
    obtain ⟨next', hb', hk⟩ := e.exists_body name
    obtain ⟨-, rfl⟩ := Proc.act.inj (hb.symm.trans hb')
    exact h.move hi (hk _) (Nodes.locks_apply (e.isBare_opening name) n) rfl rfl rfl
  | @work l a next =>
    obtain ⟨ha, hk⟩ := h.careful i e _ hi
    exact h.move hi (hk _) (Nodes.locks_answer ha.1 n) rfl rfl rfl
  | release => exact h.release hi
  | retire => exact h.retire hi
  | disclaim => exact h.disclaim hi

theorem unclaimed {o : (a : Action) → a.Answer} {a : Action} {x : a.Answer} {l : Nat}
    (h : Guarded name n vs) (hi : vs[i]? = some (e, s)) (ht : Turn name o e n s a x t m)
    (hn : n.locks.get? name = some l) (hm : m.locks.get? name ≠ some l) {j : Nat} {d : Errand}
    {u : Spot} (hij : j ≠ i) (hj : vs[j]? = some (d, u)) : u.claim? ≠ some l := by
  intro hu
  cases ht with
  | miss | ask | acquire | release | disclaim => exact hm hn
  | claim =>
    simp only [Nodes.apply, hn] at hm
    exact hm hn
  | begin => exact hm ((Nodes.locks_apply (e.isBare_opening name) n).1 ▸ hn)
  | work =>
    obtain ⟨ha, -⟩ := h.careful i e _ hi
    exact hm ((Nodes.locks_answer ha.1 n).1 ▸ hn)
  | @retire k r =>
    obtain rfl : l = k := Option.some.inj (hn.symm.trans (h.bound i e _ k hi rfl))
    have hc := h.claims_of_bound hi rfl hn hij hj hu
    have hl : ¬ (n.lock l).claims ≤ 1 := by omega
    simp only [Nodes.apply, hn, if_neg hl] at hm
    exact hm rfl

end Guarded

end StorageDriver
