namespace StorageDriver

abbrev Table (α : Type) := List (String × α)

namespace Table

variable {α : Type}

def get? (t : Table α) (key : String) : Option α := (t.find? (·.1 = key)).map (·.2)

/-- Give `key` the value `a`: in its place if the key is there, else at the end. -/
def put : Table α → String → α → Table α
  | [], key, a => [(key, a)]
  | (k, b) :: t, key, a => if k = key then (k, a) :: t else (k, b) :: put t key a

def erase (t : Table α) (key : String) : Table α := t.filter (·.1 ≠ key)

def has (t : Table α) (key : String) : Bool := t.any (·.1 = key)

@[simp] theorem get?_nil (k : String) : get? ([] : Table α) k = none := rfl

theorem get?_cons (p : String × α) (t : Table α) (k : String) :
    get? (p :: t) k = if p.1 = k then some p.2 else get? t k := by
  by_cases h : p.1 = k <;> simp [get?, h]

@[simp] theorem get?_put (t : Table α) (key : String) (a : α) (k : String) :
    (t.put key a).get? k = if key = k then some a else t.get? k := by
  induction t with
  | nil => simp [put, get?_cons]
  | cons p t ih => grind [put, get?_cons]

@[simp] theorem get?_erase (t : Table α) (key k : String) :
    (t.erase key).get? k = if key = k then none else t.get? k := by
  induction t with
  | nil => simp [erase]
  | cons p t ih => grind [erase, get?_cons]

theorem has_eq_isSome (t : Table α) (k : String) : t.has k = (t.get? k).isSome := by
  induction t with
  | nil => rfl
  | cons p t ih => by_cases h : p.1 = k <;> simp_all [has, get?_cons]

theorem keys_put (t : Table α) (key : String) (a : α) :
    (t.put key a).map (·.1) = if t.has key then t.map (·.1) else t.map (·.1) ++ [key] := by
  induction t with
  | nil => simp [put, has]
  | cons p t ih =>
    by_cases h : p.1 = key
    · simp [put, has, h]
    · by_cases ht : has t key = true <;> simp_all [put, has]

end Table

end StorageDriver
