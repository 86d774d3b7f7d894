import SqlRender.Engine
import SqlRender.Profile.Basic

/-!
# The profiles of the four engines
-/

namespace SqlRender

/-- SQL Server: brackets, literals of sixteen-bit characters, numbered parameters after `@p`,
and paging that needs an ordering. A list of tuples holds a thousand rows. -/
def Profile.sqlServer : Profile where
  quote := .brackets
  strings := .standard
  stringLead := "N"
  like := .brackets
  placeholder := .atNumbered
  paging := .offsetFetch
  multiInsert := .valuesList (some 1000)
  beginTransaction := "BEGIN TRANSACTION;"
  commitTransaction := "COMMIT TRANSACTION;"
  trueLiteral := "1"
  falseLiteral := "0"
  bytes := .zeroX
  types := [
    (.int, .plain "INT"),
    (.long, .plain "BIGINT"),
    (.decimal, .lengthPrecision "DECIMAL"),
    (.double, .plain "FLOAT"),
    (.dateTime, .plain "DATETIME2"),
    (.dateTimeOffset, .plain "DATETIMEOFFSET"),
    (.varchar, .lengthOrMax "VARCHAR" 8000),
    (.nvarchar, .lengthOrMax "NVARCHAR" 4000),
    (.blob, .lengthOrMax "VARBINARY" 8000),
    (.boolean, .plain "BIT"),
    (.guid, .plain "UNIQUEIDENTIFIER")]
  aliases := [
    ("TINYINT", .boolean),
    ("SMALLINT", .int),
    ("NUMERIC", .decimal),
    ("MONEY", .decimal),
    ("REAL", .double),
    ("DATETIME", .dateTime),
    ("SMALLDATETIME", .dateTime),
    ("DATE", .dateTime),
    ("CHAR", .varchar),
    ("TEXT", .varchar),
    ("NCHAR", .nvarchar),
    ("NTEXT", .nvarchar),
    ("BINARY", .blob),
    ("IMAGE", .blob)]
  keyTypes := [.int, .long, .decimal, .dateTime, .dateTimeOffset, .varchar, .nvarchar, .guid]
  keyLimit := some ⟨900, 1, 2⟩
  identity := .suffix "IDENTITY(1,1) PRIMARY KEY"
  existence := .caseWhen
  truncate := "TRUNCATE TABLE"
  maxStatementLength := 268435456
  maxParameters := some 2100
  timestampFormat := "%Y-%m-%dT%H:%M:%S%.3f"
  timestampOffsetFormat := "%Y-%m-%dT%H:%M:%S%.3f%:z"

/-- MySQL: grave accents, strings with backslash escapes, and no type that keeps an offset. A
key takes at most 3072 bytes, four a character. -/
def Profile.mySql : Profile where
  quote := .graves
  strings := .backslash
  stringLead := ""
  like := .backslash
  placeholder := .question
  paging := .limitComma
  multiInsert := .valuesList none
  beginTransaction := "START TRANSACTION;"
  commitTransaction := "COMMIT;"
  trueLiteral := "TRUE"
  falseLiteral := "FALSE"
  bytes := .quotedX
  types := [
    (.int, .plain "INT"),
    (.long, .plain "BIGINT"),
    (.decimal, .lengthPrecision "DECIMAL"),
    (.double, .lengthPrecision "DOUBLE"),
    (.dateTime, .plain "DATETIME"),
    (.varchar, .length "VARCHAR"),
    (.nvarchar, .length "NVARCHAR"),
    (.blob, .plain "LONGBLOB"),
    (.boolean, .plain "TINYINT(1)"),
    (.guid, .plain "CHAR(36)")]
  aliases := [
    ("INTEGER", .int),
    ("MEDIUMINT", .int),
    ("SMALLINT", .int),
    ("TINYINT", .boolean),
    ("BOOL", .boolean),
    ("BOOLEAN", .boolean),
    ("NUMERIC", .decimal),
    ("FLOAT", .double),
    ("REAL", .double),
    ("TIMESTAMP", .dateTime),
    ("DATE", .dateTime),
    ("CHAR", .varchar),
    ("TEXT", .varchar),
    ("MEDIUMTEXT", .varchar),
    ("LONGTEXT", .varchar),
    ("BLOB", .blob),
    ("MEDIUMBLOB", .blob),
    ("VARBINARY", .blob)]
  keyTypes := [.int, .long, .decimal, .dateTime, .varchar, .nvarchar, .guid]
  keyLimit := some ⟨3072, 4, 4⟩
  identity := .suffix "AUTO_INCREMENT PRIMARY KEY"
  existence := .bare
  truncate := "TRUNCATE TABLE"
  maxStatementLength := 67108864
  maxParameters := some 65535
  timestampFormat := "%Y-%m-%d %H:%M:%S%.6f"
  timestampOffsetFormat := "%Y-%m-%d %H:%M:%S%.6f%:z"

/-- PostgreSQL: double quotes, strings between dollar tags, numbered parameters after `$`, and
serial types for columns that count up. -/
def Profile.postgres : Profile where
  quote := .doubleQuotes
  strings := .dollarTag
  stringLead := ""
  like := .backslash
  placeholder := .dollarNumbered
  paging := .offsetLimit
  multiInsert := .valuesList none
  beginTransaction := "BEGIN;"
  commitTransaction := "COMMIT;"
  trueLiteral := "TRUE"
  falseLiteral := "FALSE"
  bytes := .hexDecode
  types := [
    (.int, .plain "INTEGER"),
    (.long, .plain "BIGINT"),
    (.decimal, .lengthPrecision "DECIMAL"),
    (.double, .plain "DOUBLE PRECISION"),
    (.dateTime, .plain "TIMESTAMP"),
    (.dateTimeOffset, .plain "TIMESTAMPTZ"),
    (.varchar, .length "VARCHAR"),
    (.nvarchar, .length "VARCHAR"),
    (.blob, .plain "BYTEA"),
    (.boolean, .plain "BOOLEAN"),
    (.guid, .plain "UUID")]
  aliases := [
    ("INT", .int),
    ("INT4", .int),
    ("SMALLINT", .int),
    ("SERIAL", .int),
    ("INT8", .long),
    ("BIGSERIAL", .long),
    ("NUMERIC", .decimal),
    ("FLOAT8", .double),
    ("REAL", .double),
    ("TIMESTAMP WITHOUT TIME ZONE", .dateTime),
    ("DATE", .dateTime),
    ("TIMESTAMP WITH TIME ZONE", .dateTimeOffset),
    ("CHARACTER VARYING", .varchar),
    ("TEXT", .varchar),
    ("BOOL", .boolean)]
  keyTypes :=
    [.int, .long, .decimal, .dateTime, .dateTimeOffset, .varchar, .nvarchar, .blob, .guid]
  keyLimit := none
  identity := .replaceType "SERIAL" "BIGSERIAL" "PRIMARY KEY"
  existence := .bare
  truncate := "TRUNCATE TABLE"
  maxStatementLength := 1073741823
  maxParameters := some 65535
  timestampFormat := "%Y-%m-%d %H:%M:%S%.6f"
  timestampOffsetFormat := "%Y-%m-%d %H:%M:%S%.6f%:z"

/-- SQLite: a handful of storage classes under most types, an explicit escape clause after a
pattern, a delete in place of a truncation, and a counter only on an integer key. -/
def Profile.sqlite : Profile where
  quote := .doubleQuotes
  strings := .standard
  stringLead := ""
  like := .backslashClause
  placeholder := .questionNumbered
  paging := .limitOffset
  multiInsert := .transaction
  beginTransaction := "BEGIN TRANSACTION;"
  commitTransaction := "COMMIT;"
  trueLiteral := "1"
  falseLiteral := "0"
  bytes := .quotedX
  types := [
    (.int, .plain "INTEGER"),
    (.long, .plain "INTEGER"),
    (.decimal, .plain "NUMERIC"),
    (.double, .plain "REAL"),
    (.dateTime, .plain "TEXT"),
    (.dateTimeOffset, .plain "TEXT"),
    (.varchar, .plain "TEXT"),
    (.nvarchar, .plain "TEXT"),
    (.blob, .plain "BLOB"),
    (.boolean, .plain "INTEGER"),
    (.guid, .plain "TEXT")]
  aliases := [
    ("INT", .int),
    ("BIGINT", .long),
    ("DECIMAL", .decimal),
    ("DOUBLE", .double),
    ("FLOAT", .double),
    ("DATETIME", .dateTime),
    ("VARCHAR", .varchar),
    ("NVARCHAR", .nvarchar),
    ("BOOLEAN", .boolean)]
  keyTypes := [.int, .long, .varchar, .nvarchar, .guid]
  keyLimit := none
  identity := .replaceType "INTEGER" "INTEGER" "PRIMARY KEY AUTOINCREMENT"
  existence := .bare
  truncate := "DELETE FROM"
  maxStatementLength := 1000000000
  maxParameters := some 32766
  timestampFormat := "%Y-%m-%d %H:%M:%S%.3f"
  timestampOffsetFormat := "%Y-%m-%d %H:%M:%S%.3f%:z"

/-- The profile of an engine. -/
def Engine.profile : Engine → Profile
  | .sqlServer => .sqlServer
  | .mySql => .mySql
  | .postgres => .postgres
  | .sqlite => .sqlite

end SqlRender
