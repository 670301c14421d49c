/-!
# Dialects

A dialect decides what the type codes mean that a driver puts into the description of a result.
-/

namespace TypedRows

inductive Dialect where
  | postgresql | sqlite | sqlserver | odbc | jdbc
deriving DecidableEq, Repr, Inhabited

namespace Dialect

def all : List Dialect := [.postgresql, .sqlite, .sqlserver, .odbc, .jdbc]

def name : Dialect → String
  | .postgresql => "postgresql"
  | .sqlite => "sqlite"
  | .sqlserver => "sqlserver"
  | .odbc => "odbc"
  | .jdbc => "jdbc"

def ofName? (name : String) : Option Dialect := all.find? fun d => d.name == name

theorem ofName?_name (d : Dialect) : ofName? d.name = some d := by cases d <;> decide

end Dialect

end TypedRows
