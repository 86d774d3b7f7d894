import SqlRender.Text.Blank

/-!
# Database engines

The four engines that statements are rendered for, and the names they go by.
-/

namespace SqlRender

/-- A database engine. -/
inductive Engine
  | sqlServer
  | mySql
  | postgres
  | sqlite
deriving DecidableEq

namespace Engine

/-- Every engine. -/
def all : List Engine := [sqlServer, mySql, postgres, sqlite]

/-- Every engine is listed. -/
theorem mem_all (e : Engine) : e ∈ all := by cases e <;> decide

/-- The engine's own spelling of its name, used on the wire and in messages. -/
def name : Engine → String
  | sqlServer => "SqlServer"
  | mySql => "MySQL"
  | postgres => "Postgres"
  | sqlite => "SQLite"

/-- The lower-case name of an engine's configuration section. -/
def label : Engine → String
  | sqlServer => "sqlserver"
  | mySql => "mysql"
  | postgres => "postgres"
  | sqlite => "sqlite"

/-- The form in which a name is looked up: without outer blanks, ASCII letters in lower case. -/
def lookupForm (name : String) : String := (Text.trimmed name).toLower

/-- The engine that a name in its lookup form stands for. -/
def ofLookupForm? : String → Option Engine
  | "sqlserver" | "mssql" | "tsql" => some sqlServer
  | "mysql" | "mariadb" => some mySql
  | "postgres" | "postgresql" | "pg" => some postgres
  | "sqlite" | "sqlite3" => some sqlite
  | _ => none

/-- The engine a name stands for, in any case and with blanks around it. -/
def ofName? (name : String) : Option Engine := ofLookupForm? (lookupForm name)

end Engine

end SqlRender
