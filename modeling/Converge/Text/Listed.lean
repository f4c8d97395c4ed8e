import Converge.Text.Category

/-!
# Listed sets of characters

Sets of characters with names, each given as whole general categories, further characters and
exceptions.
-/

namespace Converge.Text

/-- A set with its names, which are in lower case and without separators. -/
structure Listed where
  names : List String
  categories : List String
  more : String
  except : String

namespace Listed

/-- The characters of a listed set. -/
def set (l : Listed) : CodeSet :=
  ((categorySet l.categories).union (CodeTable.readSet l.more)).diff (CodeTable.readSet l.except)

/-- The listed set with a name. -/
def find? (name : String) (ls : List Listed) : Option CodeSet :=
  (ls.find? fun l => l.names.contains name).map set

end Listed

end Converge.Text
