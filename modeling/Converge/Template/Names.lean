/-!
# Names of filters and tests

The filters and tests that every template knows.
-/

namespace Converge.Template

/-- The names of filters. -/
def filterNames : List String :=
  ["safe", "escape", "e", "lower", "upper", "title", "capitalize", "replace", "length", "count",
    "dictsort", "items", "reverse", "trim", "join", "split", "lines", "default", "d", "round",
    "abs", "int", "float", "attr", "first", "last", "min", "max", "sort", "list", "string", "bool",
    "batch", "slice", "sum", "indent", "select", "reject", "selectattr", "rejectattr", "map",
    "groupby", "unique", "chain", "zip", "pprint", "format"]

/-- The names of tests. -/
def testNames : List String :=
  ["undefined", "defined", "none", "safe", "escaped", "boolean", "odd", "even", "divisibleby",
    "number", "integer", "int", "float", "string", "sequence", "iterable", "mapping",
    "startingwith", "endingwith", "lower", "upper", "sameas", "eq", "equalto", "==", "ne", "!=",
    "lt", "lessthan", "<", "le", "<=", "gt", "greaterthan", ">", "ge", ">=", "in", "true", "false",
    "filter", "test"]

/-- Whether a filter of some name is known. -/
def isFilter (name : String) : Bool := filterNames.contains name

/-- Whether a test of some name is known. -/
def isTest (name : String) : Bool := testNames.contains name

end Converge.Template
