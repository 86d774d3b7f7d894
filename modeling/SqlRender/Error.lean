import SqlRender.Engine
import SqlRender.DataType
import SqlRender.Predicate.Basic

/-!
# Errors

An error names its cause; the wording is one function of the cause. An error may be wrapped in
a context, which replaces the wording and keeps everything else.
-/

namespace SqlRender

/-- Why a column, a predicate or the data of a statement is malformed. -/
inductive Malformed
  | blankColumnName
  | nullableKey (column : String)
  | zeroLength (column : String)
  | zeroPrecision (column : String)
  | missingLength (column : String) (type : DataType)
  | missingPrecision (column : String) (type : DataType)
  | noColumns (table : String)
  | manyKeys (table : String) (columns : List String)
  | boundCount (field : String) (count : Nat)
  | nullBound (field : String)
  /-- A combinator without a predicate on either side. -/
  | halfCombinator (op : Operator)
  | nestedField (op : Operator)
  | misfit (op : Operator) (field : String) (operand : Operand)
  | noRows
  | noData (statement : String)
  | other (text : String)

/-- The wording of a malformed construction. -/
def Malformed.message : Malformed → String
  | blankColumnName => "Column name cannot be empty"
  | nullableKey column => "Primary key column '" ++ column ++ "' cannot be nullable"
  | zeroLength column => "Column '" ++ column ++ "' max length must be at least 1"
  | zeroPrecision column => "Column '" ++ column ++ "' precision must be at least 1"
  | missingLength column type =>
    "Column '" ++ column ++ "' of type " ++ type.name ++ " requires a max length"
  | missingPrecision column type =>
    "Column '" ++ column ++ "' of type " ++ type.name ++ " requires a precision"
  | noColumns table => "Table '" ++ table ++ "' needs at least one column"
  | manyKeys table columns =>
    "Table '" ++ table ++ "' declares more than one primary key: " ++
      String.intercalate ", " columns
  | boundCount field count =>
    "between on '" ++ field ++ "' needs exactly two bounds, got " ++ toString count
  | nullBound field => "between on '" ++ field ++ "' cannot use a NULL bound"
  | halfCombinator op => op.name ++ " requires nested expressions on both sides"
  | nestedField op => op.name ++ " requires a field name on the left"
  | misfit op field operand =>
    op.name ++ " on '" ++ field ++ "' cannot take " ++ operand.kind ++ " on the right"
  | noRows => "No rows provided for INSERT"
  | noData statement => "No data provided for " ++ statement
  | other text => text

/-- Why a leaf is dropped from a predicate. -/
inductive DropReason
  | nullComparison
  | nothingToCompare
  | patternKind (kind : String)
  | patternShape

/-- The wording of a reason. -/
def DropReason.text : DropReason → String
  | nullComparison => "comparison against NULL matches no rows"
  | nothingToCompare => "no value to compare against"
  | patternKind kind => "pattern value is " ++ kind ++ ", not a string"
  | patternShape => "pattern value is not a string"

/-- A leaf that has no SQL text and is left out of its predicate. -/
structure Drop where
  op : Operator
  field : String
  reason : DropReason

/-- The warning about a dropped leaf. -/
def Drop.warning (d : Drop) : String :=
  "Dropping predicate " ++ d.op.name ++ " on '" ++ d.field ++ "': " ++ d.reason.text

/-- Why a predicate or a value has no SQL text. -/
inductive Unrenderable
  | nonFinite (x : Double)
  | timestampPattern (pattern : String)
  | nestedField (op : Operator)
  | fieldOnLeft (op : Operator) (field : String)
  | literalOnRight (op : Operator) (operand : Operand)
  | notOneValue (op : Operator) (field : String) (operand : Operand)
  | notAList (op : Operator) (field : String) (operand : Operand)
  /-- A leaf that strict rendering refuses to drop. -/
  | dropped (d : Drop)
  | other (text : String)

/-- The wording of an unrenderable construction. -/
def Unrenderable.message : Unrenderable → String
  | nonFinite x => "Non-finite double " ++ x.text ++ " cannot be rendered inline"
  | timestampPattern pattern =>
    "Timestamp format '" ++ pattern ++ "' cannot render this value"
  | nestedField op => op.name ++ " requires a field on the left, found a nested expression"
  | fieldOnLeft op field =>
    op.name ++ " requires a nested expression on the left, found field '" ++ field ++ "'"
  | literalOnRight op operand =>
    op.name ++ " requires a nested expression on the right, found " ++ operand.structureText
  | notOneValue op field operand =>
    op.name ++ " on '" ++ field ++ "' requires a single value, found " ++ operand.structureText
  | notAList op field operand =>
    op.name ++ " on '" ++ field ++ "' requires a list, found " ++ operand.structureText
  | dropped d => d.op.name ++ " on '" ++ d.field ++ "': " ++ d.reason.text
  | other text => text

/-- What an engine cannot do. -/
inductive Feature
  | keyType (type : DataType) (column : String)
  | unboundedKey (typeName column : String)
  | keyBytes (column : String) (bytes limit : Nat)
  | unorderedOffset
  | parameterCount (count limit : Nat)
  | other (text : String)

/-- The wording of a missing feature. -/
def Feature.text : Feature → String
  | keyType type column => type.name ++ " primary key on column '" ++ column ++ "'"
  | unboundedKey typeName column => typeName ++ "(MAX) primary key on column '" ++ column ++ "'"
  | keyBytes column bytes limit =>
    "primary key '" ++ column ++ "' needs " ++ toString bytes ++ " bytes, over the " ++
      toString limit ++ "-byte key limit"
  | unorderedOffset => "OFFSET pagination requires an ORDER BY clause"
  | parameterCount count limit =>
    toString count ++ " bound parameters in one request (limit " ++ toString limit ++
      "); use build_insert_batches or inline mode"
  | other text => text

/-- What is wrong with a configuration. The diagnostics of a text that cannot be read are not
part of the wording. -/
inductive ConfigFault
  | unknownEngine (name : String)
  | unknownSection (name : String)
  | badPattern (pattern dialect : String)
  | zeroLimit (dialect : String)
  | badFlag (setting value : String)
  | malformedText
  | malformedFile (path : String)
  | unmergeable
  /-- A file that cannot be read, with the advice for the reader of the message if any. -/
  | unreadable (path reason advice : String)
  | other (text : String)

/-- The wording of a configuration fault. -/
def ConfigFault.message : ConfigFault → String
  | unknownEngine name => "Unknown database backend '" ++ name ++ "'"
  | unknownSection name => "Unknown dialect section '" ++ name ++ "'"
  | badPattern pattern name =>
    "Invalid timestamp format '" ++ pattern ++ "' for dialect '" ++ name ++ "'"
  | zeroLimit name => "max_statement_length for dialect '" ++ name ++ "' cannot be 0"
  | badFlag setting value => "Invalid " ++ setting ++ " value '" ++ value ++ "'"
  | malformedText => "Failed to parse configuration: "
  | malformedFile path => "Failed to parse config file '" ++ path ++ "': "
  | unmergeable => "Failed to merge configuration files: "
  | unreadable path reason advice =>
    "Failed to read config file '" ++ path ++ "': " ++ reason ++ advice
  | other text => text

/-- Everything that can go wrong. -/
inductive Error
  | malformed (cause : Malformed)
  | unsupportedType (engine : Engine) (type : DataType)
  | unsupportedFeature (engine : Engine) (feature : Feature)
  /-- A row whose columns are not those of the first row. -/
  | schemaMismatch (row : Nat) (expected found : String)
  | unrenderable (cause : Unrenderable)
  | statementTooLong (engine : Engine) (length limit : Nat)
  | missingClause (clause : String)
  | config (fault : ConfigFault)
  /-- A document that is not of the expected shape. -/
  | json
  /-- A failure of the engine, with the statement it was given. -/
  | execution (sql message : String)
  | inContext (context : String) (source : Error)

namespace Error

/-- The wording of an error. -/
def message : Error → String
  | malformed cause => "Validation error: " ++ cause.message
  | unsupportedType engine type =>
    "Type " ++ type.name ++ " is not supported by " ++ engine.name
  | unsupportedFeature engine feature =>
    "Feature not supported in " ++ engine.name ++ ": " ++ feature.text
  | schemaMismatch row expected found =>
    "Schema mismatch in row " ++ toString row ++ ": expected fields [" ++ expected ++
      "], found [" ++ found ++ "]"
  | unrenderable cause => "Invalid expression: " ++ cause.message
  | statementTooLong engine length limit =>
    "Statement for " ++ engine.name ++ " is " ++ toString length ++
      " bytes, exceeding the maximum of " ++ toString limit
  | missingClause clause =>
    "Missing required clause: " ++ clause ++ ". Add ." ++ clause ++ "() to your query."
  | config fault => "Configuration error: " ++ fault.message
  | json => "JSON error: "
  | execution sql text => "Execution error: " ++ text ++ " (sql: " ++ sql ++ ")"
  | inContext context _ => context

/-- The stable code of an error, the same in every context. -/
def code : Error → String
  | malformed _ => "E_VALIDATION"
  | unsupportedType .. => "E_UNSUPPORTED_TYPE"
  | unsupportedFeature .. => "E_UNSUPPORTED_FEATURE"
  | schemaMismatch .. => "E_SCHEMA_MISMATCH"
  | unrenderable _ => "E_INVALID_EXPRESSION"
  | statementTooLong .. => "E_MAX_LENGTH"
  | missingClause _ => "E_MISSING_CLAUSE"
  | config _ => "E_CONFIG"
  | json => "E_JSON"
  | execution .. => "E_EXECUTION"
  | inContext _ source => source.code

/-- The statement an engine failed on, the same in every context. -/
def sql? : Error → Option String
  | execution sql _ => some sql
  | inContext _ source => source.sql?
  | _ => none

/-- Only a failure of the engine may be tried again. -/
def isRetryable : Error → Bool
  | execution .. => true
  | inContext _ source => source.isRetryable
  | _ => false

end Error

end SqlRender
