import Converge.Decimal.Binary64
import Converge.Tree.Fields

/-!
# Data trees

Schema-free data: facts, wanted configuration and result fragments are all trees. Maps keep the
order in which their keys came, and integers and floats are different numbers.
-/

namespace Converge

/-- A schema-free value. -/
inductive Tree where
  | null
  | bool (b : Bool)
  | int (i : Int)
  | float (x : Binary64)
  | text (s : String)
  | list (items : List Tree)
  | map (entries : List (String × Tree))

namespace Tree

instance : Inhabited Tree := ⟨null⟩

/-- Induction over trees: what holds of the leaves, and of lists and maps when it holds of their
parts, holds of every tree. -/
@[elab_as_elim, induction_eliminator]
theorem induct {motive : Tree → Prop} (null : motive .null) (bool : ∀ b, motive (.bool b))
    (int : ∀ i, motive (.int i)) (float : ∀ x, motive (.float x)) (text : ∀ s, motive (.text s))
    (list : ∀ items : List Tree, (∀ v ∈ items, motive v) → motive (.list items))
    (map : ∀ entries : List (String × Tree), (∀ e ∈ entries, motive e.2) → motive (.map entries))
    (t : Tree) : motive t :=
  @Tree.rec motive (fun items => ∀ v ∈ items, motive v) (fun entries => ∀ e ∈ entries, motive e.2)
    (fun e => motive e.2) null bool int float text list map
    (fun _ h => nomatch h)
    (fun _ _ head tail v hv => (List.mem_cons.1 hv).elim (fun h => h ▸ head) (tail v))
    (fun _ h => nomatch h)
    (fun _ _ head tail e he => (List.mem_cons.1 he).elim (fun h => h ▸ head) (tail e))
    (fun _ _ value => value) t

/-- The map without entries. -/
def empty : Tree := map []

/-- The value under a key of a map. -/
def field? (key : String) : Tree → Option Tree
  | map entries => Fields.get? key entries
  | _ => none

/-- Whether a tree is a map. -/
def isMap : Tree → Bool
  | map _ => true
  | _ => false

mutual

/-- Equality of values: the order of keys in maps does not count, floats compare as numbers, and an
integer never equals a float. -/
def same : Tree → Tree → Bool
  | null, null => true
  | bool a, bool b => a == b
  | int a, int b => a == b
  | float a, float b => a.numEq b
  | text a, text b => a == b
  | list as, list bs => sameItems as bs
  | map es, map fs => es.length == fs.length && sameFields es fs
  | _, _ => false

/-- Item by item equality. -/
def sameItems : List Tree → List Tree → Bool
  | [], [] => true
  | a :: as, b :: bs => same a b && sameItems as bs
  | _, _ => false

/-- Whether each entry has an equal one under its key. -/
def sameFields : List (String × Tree) → List (String × Tree) → Bool
  | [], _ => true
  | (k, v) :: rest, fs =>
    (match Fields.get? k fs with
      | some w => same v w
      | none => false) && sameFields rest fs

end

mutual

/-- Whether two trees are one and the same, the order of keys included. -/
def identical : Tree → Tree → Bool
  | null, null => true
  | bool a, bool b => a == b
  | int a, int b => a == b
  | float a, float b => a == b
  | text a, text b => a == b
  | list as, list bs => identicalItems as bs
  | map es, map fs => identicalFields es fs
  | _, _ => false

/-- Item by item identity. -/
def identicalItems : List Tree → List Tree → Bool
  | [], [] => true
  | a :: as, b :: bs => identical a b && identicalItems as bs
  | _, _ => false

/-- Entry by entry identity. -/
def identicalFields : List (String × Tree) → List (String × Tree) → Bool
  | [], [] => true
  | (k, v) :: es, (l, w) :: fs => k == l && identical v w && identicalFields es fs
  | _, _ => false

end

theorem identicalItems_iff {as bs : List Tree}
    (h : ∀ a ∈ as, ∀ b, identical a b = true ↔ a = b) :
    identicalItems as bs = true ↔ as = bs := by
  induction as generalizing bs with
  | nil => cases bs <;> simp [identicalItems]
  | cons a as ih =>
    cases bs with
    | nil => simp [identicalItems]
    | cons b bs =>
      rw [List.forall_mem_cons] at h
      simp [identicalItems, h.1 b, ih h.2]

theorem identicalFields_iff {es fs : List (String × Tree)}
    (h : ∀ e ∈ es, ∀ w, identical e.2 w = true ↔ e.2 = w) :
    identicalFields es fs = true ↔ es = fs := by
  induction es generalizing fs with
  | nil => cases fs <;> simp [identicalFields]
  | cons e es ih =>
    cases fs with
    | nil => simp [identicalFields]
    | cons f fs =>
      rw [List.forall_mem_cons] at h
      simp [identicalFields, h.1 f.2, ih h.2, Prod.ext_iff]

theorem identical_iff {t u : Tree} : identical t u = true ↔ t = u := by
  induction t generalizing u with
  | list items ih => cases u <;> simp [identical, identicalItems_iff ih]
  | map entries ih => cases u <;> simp [identical, identicalFields_iff ih]
  | _ => cases u <;> simp [identical]

instance : DecidableEq Tree := fun _ _ => decidable_of_iff _ identical_iff

mutual

/-- Whether a tree is data: at every depth the keys of a map are distinct and floats are finite. -/
def WellFormed : Tree → Prop
  | float x => x.isFinite = true
  | list items => WellFormedItems items
  | map entries => (Fields.keys entries).Nodup ∧ WellFormedFields entries
  | _ => True

/-- Well-formedness of each item. -/
def WellFormedItems : List Tree → Prop
  | [] => True
  | v :: rest => WellFormed v ∧ WellFormedItems rest

/-- Well-formedness of each entry's value. -/
def WellFormedFields : List (String × Tree) → Prop
  | [] => True
  | (_, v) :: rest => WellFormed v ∧ WellFormedFields rest

end

mutual

/-- The tree with the keys of every map in ascending order. -/
def sorted : Tree → Tree
  | list items => list (sortedItems items)
  | map entries => map (Fields.sorted (sortedFields entries))
  | leaf => leaf

/-- The items with sorted maps. -/
def sortedItems : List Tree → List Tree
  | [] => []
  | v :: rest => sorted v :: sortedItems rest

/-- The entries with sorted maps in their values. -/
def sortedFields : List (String × Tree) → List (String × Tree)
  | [] => []
  | (k, v) :: rest => (k, sorted v) :: sortedFields rest

end

end Tree

end Converge
