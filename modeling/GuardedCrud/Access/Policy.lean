import GuardedCrud.Access.Level

/-!
# Policies

A policy gives every operation a level.  Overrides give a level to some of them, and merging them over a policy
changes those and keeps the others.
-/

namespace GuardedCrud.Access

/-- One value for each operation. -/
structure PerOperation (α : Type) where
  readMany : α
  count : α
  readOne : α
  create : α
  update : α
  delete : α
  deriving DecidableEq, Repr

namespace PerOperation

variable {α : Type}

/-- The value of an operation. -/
def get (p : PerOperation α) : Operation → α
  | .readMany => p.readMany
  | .count => p.count
  | .readOne => p.readOne
  | .create => p.create
  | .update => p.update
  | .delete => p.delete

/-- The values that a function gives. -/
def ofFn (f : Operation → α) : PerOperation α where
  readMany := f .readMany
  count := f .count
  readOne := f .readOne
  create := f .create
  update := f .update
  delete := f .delete

/-- The same value for every operation. -/
def uniform (a : α) : PerOperation α := ofFn fun _ => a

/-- Another value for one operation. -/
def set (p : PerOperation α) (op : Operation) (a : α) : PerOperation α :=
  ofFn fun other => if other = op then a else p.get other

/-- The operations with their values, in the order of `Operation.all`. -/
def toList (p : PerOperation α) : List (Operation × α) :=
  Operation.all.map fun op => (op, p.get op)

@[simp] theorem get_ofFn (f : Operation → α) (op : Operation) : (ofFn f).get op = f op := by
  cases op <;> rfl

@[simp] theorem ofFn_get (p : PerOperation α) : ofFn p.get = p := rfl

@[ext] theorem ext_get {p q : PerOperation α} (h : ∀ op, p.get op = q.get op) : p = q := by
  rw [← ofFn_get p, ← ofFn_get q, funext h]

@[simp] theorem get_uniform (a : α) (op : Operation) : (uniform a).get op = a := get_ofFn _ op

@[simp] theorem get_set (p : PerOperation α) (op other : Operation) (a : α) :
    (p.set op a).get other = if other = op then a else p.get other := get_ofFn _ other

end PerOperation

/-- A level for every operation. -/
abbrev Policy := PerOperation Level

/-- A level for some operations. -/
abbrev Overrides := PerOperation (Option Level)

/-- The policy that reserves every operation for administrators. -/
def Policy.adminOnly : Policy := PerOperation.uniform .admin

/-- No operation has a level. -/
def Overrides.unset : Overrides := PerOperation.uniform none

/-- Overrides that give no level at all. -/
def Overrides.isEmpty (o : Overrides) : Bool := Operation.all.all fun op => (o.get op).isNone

/-- The policy with the levels of the overrides where they give one. -/
def Policy.merge (p : Policy) (o : Overrides) : Policy :=
  PerOperation.ofFn fun op => (o.get op).getD (p.get op)

@[simp] theorem Policy.get_merge (p : Policy) (o : Overrides) (op : Operation) :
    (p.merge o).get op = (o.get op).getD (p.get op) := PerOperation.get_ofFn _ op

end GuardedCrud.Access
