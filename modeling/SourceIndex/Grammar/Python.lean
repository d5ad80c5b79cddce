import SourceIndex.Grammar.Rule
import SourceIndex.Text.Unicode

set_option autoImplicit false

namespace SourceIndex.PythonGrammar

open Rule

def lambda : Int := -2
def typedParameter : Int := -1
def conditional : Int := -1
def parenthesized : Int := 1
def disjunction : Int := 10
def conjunction : Int := 11
def negation : Int := 12
def comparison : Int := 13
def bitwiseOr : Int := 14
def bitwiseAnd : Int := 15
def exclusiveOr : Int := 16
def shift : Int := 17
def additive : Int := 18
def multiplicative : Int := 19
def unary : Int := 20
def power : Int := 21
def call : Int := 22

def leftOperators : List (String × Int) := [
  ("+", additive), ("-", additive), ("*", multiplicative), ("@", multiplicative),
  ("/", multiplicative), ("%", multiplicative), ("//", multiplicative),
  ("|", bitwiseOr), ("&", bitwiseAnd), ("^", exclusiveOr), ("<<", shift), (">>", shift)]

def assignmentOperators : List String :=
  ["+=", "-=", "*=", "/=", "@=", "//=", "%=", "**=", ">>=", "<<=", "&=", "^=", "|="]

def separators : CharSet :=
  Pattern.blankSet ∪ .ofRanges [(0xFEFF, 0xFEFF), (0x2060, 0x2060), (0x200B, 0x200B)]

def lineEnd : Pattern := .seq [.opt (.text "\r"), .text "\n"]

def lineContinuation : Pattern := .seq [.text "\\", .alt [lineEnd, .text "\x00"]]

def digitGroups (digit : Pattern) : Pattern :=
  .many1 (.seq [.opt (.text "_"), .many1 digit])

def digits : Pattern := .many1 (.seq [.many1 .digit, .opt (.text "_")])

def radixInteger (lower upper : String) (digit : Pattern) : Pattern :=
  .seq [.alt [.text lower, .text upper], digitGroups digit, .opt (.oneOf "Ll")]

def integer : Pattern :=
  .alt [
    radixInteger "0x" "0X" .hexDigit,
    radixInteger "0o" "0O" (.range '0' '7'),
    radixInteger "0b" "0B" (.range '0' '1'),
    .seq [digits, .alt [.opt (.oneOf "Ll"), .opt (.oneOf "jJ")]]]

def exponent : Pattern := .seq [.oneOf "eE", .opt (.oneOf "+-"), digits]

def float : Pattern :=
  .seq [
    .alt [
      .seq [digits, .text ".", .opt digits, .opt exponent],
      .seq [.opt digits, .text ".", digits, .opt exponent],
      .seq [digits, exponent]],
    .opt (.oneOf "jJ")]

def escapeSequence : Pattern :=
  .seq [.text "\\", .alt [
    .seq [.text "u", .repeated .hexDigit 4 4],
    .seq [.text "U", .repeated .hexDigit 8 8],
    .seq [.text "x", .repeated .hexDigit 2 2],
    .repeated .digit 3 3,
    lineEnd,
    .oneOf "'\"abfrntv\\",
    .seq [.text "N\x7b", .many1 (.noneOf "\x7d"), .text "\x7d"]]]

def identifier : Pattern :=
  .seq [.chars (Unicode.identifierStart ∪ .ofString "_"),
    .many (.chars (Unicode.identifierContinue ∪ .ofString "_"))]

/-- One or more `rule` after one another with `;` between, for statements on one line. -/
def semicolonSep1 (rule : Rule Reference) : Rule Reference := seq [rule, many (seq [";", rule])]

/-- A list with commas between its parts and perhaps one at its end. -/
def trailing (rule : Rule Reference) : Rule Reference := seq [commaSep1 rule, opt ","]

def suite (name : String) : Rule Reference := field name (ref "_suite")

/-- A list of at least two parts, or one with a comma after it. -/
def several (rule : Rule Reference) : Rule Reference :=
  seq [rule, choice [",", seq [many1 (seq [",", rule]), opt ","]]]

def asIdentifier (rule : Rule Reference) : Rule Reference := renamed "identifier" rule

def simpleStatements : List (String × Rule Reference) := [
  ("module", many (ref "_statement")),
  ("_statement", choice [ref "_simple_statements", ref "_compound_statement"]),
  ("_simple_statements", seq [semicolonSep1 (ref "_simple_statement"), opt ";", ref "_newline"]),
  ("_simple_statement", choice [
    ref "future_import_statement", ref "import_statement", ref "import_from_statement",
    ref "print_statement", ref "assert_statement", ref "expression_statement",
    ref "return_statement", ref "delete_statement", ref "raise_statement", ref "pass_statement",
    ref "break_statement", ref "continue_statement", ref "global_statement",
    ref "nonlocal_statement", ref "exec_statement", ref "type_alias_statement"]),
  ("import_statement", seq ["import", ref "_import_list"]),
  ("import_prefix", many1 "."),
  ("relative_import", seq [ref "import_prefix", opt (ref "dotted_name")]),
  ("future_import_statement", seq ["from", "__future__", "import",
    choice [ref "_import_list", seq ["(", ref "_import_list", ")"]]]),
  ("import_from_statement", seq ["from",
    field "module_name" (choice [ref "relative_import", ref "dotted_name"]),
    "import",
    choice [ref "wildcard_import", ref "_import_list", seq ["(", ref "_import_list", ")"]]]),
  ("_import_list", trailing (field "name" (choice [ref "dotted_name", ref "aliased_import"]))),
  ("aliased_import", seq [
    field "name" (ref "dotted_name"), "as", field "alias" (ref "identifier")]),
  ("wildcard_import", "*"),
  ("print_statement", choice [
    prec 1 (seq ["print", ref "chevron",
      many (seq [",", field "argument" (ref "expression")]), opt ","]),
    prec (-3) (dynamic (-1) (seq ["print",
      trailing (field "argument" (ref "expression"))]))]),
  ("chevron", seq [">>", ref "expression"]),
  ("assert_statement", seq ["assert", commaSep1 (ref "expression")]),
  ("expression_statement", choice [
    ref "expression", trailing (ref "expression"), ref "assignment",
    ref "augmented_assignment", ref "yield"]),
  ("named_expression", seq [
    field "name" (ref "_named_expression_lhs"), ":=", field "value" (ref "expression")]),
  ("_named_expression_lhs", choice [ref "identifier", ref "keyword_identifier"]),
  ("return_statement", seq ["return", opt (ref "_expressions")]),
  ("delete_statement", seq ["del", ref "_expressions"]),
  ("_expressions", choice [ref "expression", ref "expression_list"]),
  ("raise_statement", seq ["raise", opt (ref "_expressions"),
    opt (seq ["from", field "cause" (ref "expression")])]),
  ("pass_statement", left "pass"),
  ("break_statement", left "break"),
  ("continue_statement", left "continue")]

def compoundStatements : List (String × Rule Reference) := [
  ("_compound_statement", choice [
    ref "if_statement", ref "for_statement", ref "while_statement", ref "try_statement",
    ref "with_statement", ref "function_definition", ref "class_definition",
    ref "decorated_definition", ref "match_statement"]),
  ("if_statement", seq ["if", field "condition" (ref "expression"), ":", suite "consequence",
    many (field "alternative" (ref "elif_clause")),
    opt (field "alternative" (ref "else_clause"))]),
  ("elif_clause", seq [
    "elif", field "condition" (ref "expression"), ":", suite "consequence"]),
  ("else_clause", seq ["else", ":", suite "body"]),
  ("match_statement", seq ["match", commaSep1 (field "subject" (ref "expression")), opt ",", ":",
    field "body" (renamed "block" (ref "_match_block"))]),
  ("_match_block", choice [
    seq [ref "_indent", many (field "alternative" (ref "case_clause")), ref "_dedent"],
    ref "_newline"]),
  ("case_clause", seq ["case", commaSep1 (ref "case_pattern"), opt ",",
    opt (field "guard" (ref "if_clause")), ":", suite "consequence"]),
  ("for_statement", seq [opt "async", "for", field "left" (ref "_left_hand_side"), "in",
    field "right" (ref "_expressions"), ":", suite "body",
    field "alternative" (opt (ref "else_clause"))]),
  ("while_statement", seq ["while", field "condition" (ref "expression"), ":", suite "body",
    opt (field "alternative" (ref "else_clause"))]),
  ("try_statement", seq ["try", ":", suite "body", choice [
    seq [many1 (ref "except_clause"), opt (ref "else_clause"), opt (ref "finally_clause")],
    seq [many1 (ref "except_group_clause"), opt (ref "else_clause"),
      opt (ref "finally_clause")],
    ref "finally_clause"]]),
  ("except_clause", seq ["except",
    opt (seq [ref "expression", opt (seq [choice ["as", ","], ref "expression"])]),
    ":", ref "_suite"]),
  ("except_group_clause", seq ["except*",
    seq [ref "expression", opt (seq ["as", ref "expression"])],
    ":", ref "_suite"]),
  ("finally_clause", seq ["finally", ":", ref "_suite"]),
  ("with_statement", seq [opt "async", "with", ref "with_clause", ":", suite "body"]),
  ("with_clause", choice [
    trailing (ref "with_item"),
    seq ["(", commaSep1 (ref "with_item"), opt ",", ")"]]),
  ("with_item", dynamic 1 (seq [field "value" (ref "expression")])),
  ("function_definition", seq [opt "async", "def", field "name" (ref "identifier"),
    field "type_parameters" (opt (ref "type_parameter")),
    field "parameters" (ref "parameters"),
    opt (seq ["->", field "return_type" (ref "type")]), ":", suite "body"]),
  ("parameters", seq ["(", opt (ref "_parameters"), ")"]),
  ("lambda_parameters", ref "_parameters"),
  ("list_splat", seq ["*", ref "expression"]),
  ("dictionary_splat", seq ["**", ref "expression"]),
  ("global_statement", seq ["global", commaSep1 (ref "identifier")]),
  ("nonlocal_statement", seq ["nonlocal", commaSep1 (ref "identifier")]),
  ("exec_statement", seq ["exec", field "code" (choice [ref "string", ref "identifier"]),
    opt (seq ["in", commaSep1 (ref "expression")])]),
  ("type_alias_statement", dynamic 1 (seq [
    "type", field "left" (ref "type"), "=", field "right" (ref "type")])),
  ("class_definition", seq ["class", field "name" (ref "identifier"),
    field "type_parameters" (opt (ref "type_parameter")),
    field "superclasses" (opt (ref "argument_list")), ":", suite "body"]),
  ("type_parameter", seq ["[", commaSep1 (ref "type"), opt ",", "]"]),
  ("parenthesized_list_splat", prec parenthesized (seq ["(",
    choice [renamed "parenthesized_expression" (ref "parenthesized_list_splat"),
      ref "list_splat"],
    ")"])),
  ("argument_list", seq ["(",
    opt (commaSep1 (choice [ref "expression", ref "list_splat", ref "dictionary_splat",
      renamed "parenthesized_expression" (ref "parenthesized_list_splat"),
      ref "keyword_argument"])),
    opt ",", ")"]),
  ("decorated_definition", seq [many1 (ref "decorator"),
    field "definition" (choice [ref "class_definition", ref "function_definition"])]),
  ("decorator", seq ["@", ref "expression", ref "_newline"]),
  ("_suite", choice [
    renamed "block" (ref "_simple_statements"),
    seq [ref "_indent", ref "block"],
    renamed "block" (ref "_newline")]),
  ("block", seq [many (ref "_statement"), ref "_dedent"]),
  ("expression_list", right (several (ref "expression"))),
  ("dotted_name", prec 1 (seq [ref "identifier", many (seq [".", ref "identifier"])]))]

def optCases : Rule Reference := opt (trailing (ref "case_pattern"))

def numberChoice : Rule Reference := choice [ref "integer", ref "float"]

def casePatterns : List (String × Rule Reference) := [
  ("case_pattern", prec 1 (choice [
    renamed "as_pattern" (ref "_as_pattern"), ref "keyword_pattern", ref "_simple_pattern"])),
  ("_simple_pattern", prec 1 (choice [
    ref "class_pattern", ref "splat_pattern", ref "union_pattern",
    renamed "list_pattern" (ref "_list_pattern"),
    renamed "tuple_pattern" (ref "_tuple_pattern"),
    ref "dict_pattern", ref "string", ref "concatenated_string", ref "true", ref "false",
    ref "none", seq [opt "-", numberChoice], ref "complex_pattern", ref "dotted_name", "_"])),
  ("_as_pattern", seq [ref "case_pattern", "as", ref "identifier"]),
  ("union_pattern", right (seq [ref "_simple_pattern",
    many1 (left (seq ["|", ref "_simple_pattern"]))])),
  ("_list_pattern", seq ["[", optCases, "]"]),
  ("_tuple_pattern", seq ["(", optCases, ")"]),
  ("dict_pattern", braced
    (opt (trailing (choice [ref "_key_value_pattern", ref "splat_pattern"])))),
  ("_key_value_pattern", seq [
    field "key" (ref "_simple_pattern"), ":", field "value" (ref "case_pattern")]),
  ("keyword_pattern", seq [ref "identifier", "=", ref "_simple_pattern"]),
  ("splat_pattern", prec 1 (seq [choice ["*", "**"], choice [ref "identifier", "_"]])),
  ("class_pattern", seq [ref "dotted_name", "(", optCases, ")"]),
  ("complex_pattern", prec 1 (seq [opt "-", numberChoice, choice ["+", "-"], numberChoice]))]

def splatTarget : Rule Reference :=
  choice [ref "identifier", ref "keyword_identifier", ref "subscript", ref "attribute"]

def patterns : List (String × Rule Reference) := [
  ("_parameters", trailing (ref "parameter")),
  ("_patterns", trailing (ref "pattern")),
  ("parameter", choice [
    ref "identifier", ref "typed_parameter", ref "default_parameter",
    ref "typed_default_parameter", ref "list_splat_pattern", ref "tuple_pattern",
    ref "keyword_separator", ref "positional_separator", ref "dictionary_splat_pattern"]),
  ("pattern", choice [
    ref "identifier", ref "keyword_identifier", ref "subscript", ref "attribute",
    ref "list_splat_pattern", ref "tuple_pattern", ref "list_pattern"]),
  ("tuple_pattern", seq ["(", opt (ref "_patterns"), ")"]),
  ("list_pattern", seq ["[", opt (ref "_patterns"), "]"]),
  ("default_parameter", seq [field "name" (choice [ref "identifier", ref "tuple_pattern"]),
    "=", field "value" (ref "expression")]),
  ("typed_default_parameter", prec typedParameter (seq [field "name" (ref "identifier"), ":",
    field "type" (ref "type"), "=", field "value" (ref "expression")])),
  ("list_splat_pattern", seq ["*", splatTarget]),
  ("dictionary_splat_pattern", seq ["**", splatTarget]),
  ("as_pattern", left (seq [ref "expression", "as",
    field "alias" (renamed "as_pattern_target" (ref "expression"))]))]

def binaryRule (operator : String) : Rule Reference :=
  seq [field "left" (ref "primary_expression"), field "operator" operator,
    field "right" (ref "primary_expression")]

def booleanRule (operator : String) : Rule Reference :=
  seq [field "left" (ref "expression"), field "operator" operator,
    field "right" (ref "expression")]

/-- The thirteen operators in the order of the language's own table: `**` is the eighth. -/
def binaryOperators : Rule Reference :=
  let leftOnes := leftOperators.map fun (operator, level) => left (binaryRule operator) level
  choice (leftOnes.take 7 ++ [right (binaryRule "**") power] ++ leftOnes.drop 7)

def lambdaRule (body : String) : Rule Reference :=
  seq ["lambda", field "parameters" (opt (ref "lambda_parameters")), ":",
    field "body" (ref body)]

def operations : List (String × Rule Reference) := [
  ("_expression_within_for_in_clause", choice [
    ref "expression", renamed "lambda" (ref "lambda_within_for_in_clause")]),
  ("expression", choice [
    ref "comparison_operator", ref "not_operator", ref "boolean_operator", ref "lambda",
    ref "primary_expression", ref "conditional_expression", ref "named_expression",
    ref "as_pattern"]),
  ("primary_expression", choice [
    ref "await", ref "binary_operator", ref "identifier", ref "keyword_identifier",
    ref "string", ref "concatenated_string", ref "integer", ref "float", ref "true",
    ref "false", ref "none", ref "unary_operator", ref "attribute", ref "subscript",
    ref "call", ref "list", ref "list_comprehension", ref "dictionary",
    ref "dictionary_comprehension", ref "set", ref "set_comprehension", ref "tuple",
    ref "parenthesized_expression", ref "generator_expression", ref "ellipsis",
    renamed "list_splat" (ref "list_splat_pattern")]),
  ("not_operator", prec negation (seq ["not", field "argument" (ref "expression")])),
  ("boolean_operator", choice [
    left (booleanRule "and") conjunction, left (booleanRule "or") disjunction]),
  ("binary_operator", binaryOperators),
  ("unary_operator", prec unary (seq [
    field "operator" (choice ["+", "-", "~"]), field "argument" (ref "primary_expression")])),
  ("_not_in", seq ["not", "in"]),
  ("_is_not", seq ["is", "not"]),
  ("comparison_operator", left (seq [ref "primary_expression",
    many1 (seq [
      field "operators" (choice ["<", "<=", "==", "!=", ">=", ">", "<>", "in",
        spelled "not in" (ref "_not_in"), "is", spelled "is not" (ref "_is_not")]),
      ref "primary_expression"])]) comparison),
  ("lambda", prec lambda (lambdaRule "expression")),
  ("lambda_within_for_in_clause", lambdaRule "_expression_within_for_in_clause"),
  ("assignment", seq [field "left" (ref "_left_hand_side"), choice [
    seq ["=", field "right" (ref "_right_hand_side")],
    seq [":", field "type" (ref "type")],
    seq [":", field "type" (ref "type"), "=", field "right" (ref "_right_hand_side")]]]),
  ("augmented_assignment", seq [field "left" (ref "_left_hand_side"),
    field "operator" (anyOf assignmentOperators), field "right" (ref "_right_hand_side")]),
  ("_left_hand_side", choice [ref "pattern", ref "pattern_list"]),
  ("pattern_list", several (ref "pattern")),
  ("_right_hand_side", choice [
    ref "expression", ref "expression_list", ref "assignment", ref "augmented_assignment",
    ref "pattern_list", ref "yield"]),
  ("yield", right (seq ["yield",
    choice [seq ["from", ref "expression"], opt (ref "_expressions")]])),
  ("attribute", prec call (seq [field "object" (ref "primary_expression"), ".",
    field "attribute" (ref "identifier")])),
  ("subscript", prec call (seq [field "value" (ref "primary_expression"), "[",
    commaSep1 (field "subscript" (choice [ref "expression", ref "slice"])), opt ",", "]"])),
  ("slice", seq [opt (ref "expression"), ":", opt (ref "expression"),
    opt (seq [":", opt (ref "expression")])]),
  ("ellipsis", "..."),
  ("call", prec call (seq [field "function" (ref "primary_expression"),
    field "arguments" (choice [ref "generator_expression", ref "argument_list"])])),
  ("typed_parameter", prec typedParameter (seq [
    choice [ref "identifier", ref "list_splat_pattern", ref "dictionary_splat_pattern"], ":",
    field "type" (ref "type")])),
  ("type", choice [prec 1 (ref "expression"), ref "splat_type", ref "generic_type",
    ref "union_type", ref "constrained_type", ref "member_type"]),
  ("splat_type", prec 1 (seq [choice ["*", "**"], ref "identifier"])),
  ("generic_type", prec 1 (seq [
    choice [ref "identifier", asIdentifier "type"], ref "type_parameter"])),
  ("union_type", left (seq [ref "type", "|", ref "type"])),
  ("constrained_type", right (seq [ref "type", ":", ref "type"])),
  ("member_type", seq [ref "type", ".", ref "identifier"]),
  ("keyword_argument", seq [
    field "name" (choice [ref "identifier", ref "keyword_identifier"]), "=",
    field "value" (ref "expression")])]

def comprehension (body : String) : Rule Reference :=
  seq [field "body" (ref body), ref "_comprehension_clauses"]

def literals : List (String × Rule Reference) := [
  ("list", seq ["[", opt (ref "_collection_elements"), "]"]),
  ("set", braced (ref "_collection_elements")),
  ("tuple", seq ["(", opt (ref "_collection_elements"), ")"]),
  ("dictionary", seq [lbrace,
    opt (commaSep1 (choice [ref "pair", ref "dictionary_splat"])), opt ",", rbrace]),
  ("pair", seq [field "key" (ref "expression"), ":", field "value" (ref "expression")]),
  ("list_comprehension", seq ["[", comprehension "expression", "]"]),
  ("dictionary_comprehension", braced (comprehension "pair")),
  ("set_comprehension", braced (comprehension "expression")),
  ("generator_expression", seq ["(", comprehension "expression", ")"]),
  ("_comprehension_clauses", seq [ref "for_in_clause",
    many (choice [ref "for_in_clause", ref "if_clause"])]),
  ("parenthesized_expression", prec parenthesized (seq ["(",
    choice [ref "expression", ref "yield"], ")"])),
  ("_collection_elements", trailing (choice [
    ref "expression", ref "yield", ref "list_splat", ref "parenthesized_list_splat"])),
  ("for_in_clause", left (seq [opt "async", "for", field "left" (ref "_left_hand_side"), "in",
    field "right" (commaSep1 (ref "_expression_within_for_in_clause")), opt ","])),
  ("if_clause", seq ["if", ref "expression"]),
  ("conditional_expression", right (seq [ref "expression", "if", ref "expression", "else",
    ref "expression"]) conditional),
  ("concatenated_string", seq [ref "string", many1 (ref "string")]),
  ("string", seq [ref "string_start",
    many (choice [ref "interpolation", ref "string_content"]), ref "string_end"]),
  ("string_content", right (many1 (choice [
    ref "escape_interpolation", ref "escape_sequence", ref "_not_escape_sequence",
    ref "_string_content"]))),
  ("interpolation", braced (seq [field "expression" (ref "_f_expression"), opt "=",
    opt (field "type_conversion" (ref "type_conversion")),
    opt (field "format_specifier" (ref "format_specifier"))])),
  ("_f_expression", choice [
    ref "expression", ref "expression_list", ref "pattern_list", ref "yield"]),
  ("escape_sequence", immediate escapeSequence 1),
  ("_not_escape_sequence", immediate (.text "\\")),
  ("format_specifier", seq [":", many (choice [
    token (.many1 (.noneOf "\x7b\x7d\n")) 1,
    renamed "format_expression" (ref "interpolation")])]),
  ("type_conversion", Pattern.seq [.text "!", .range 'a' 'z']),
  ("integer", token integer),
  ("float", token float),
  ("identifier", identifier),
  ("keyword_identifier", choice [
    prec (-3) (asIdentifier (anyOf ["print", "exec", "async", "await"])),
    asIdentifier (anyOf ["type", "match"])]),
  ("true", "True"),
  ("false", "False"),
  ("none", "None"),
  ("await", prec unary (seq ["await", ref "primary_expression"])),
  ("comment", token (.seq [.text "#", .many .anyInLine])),
  ("line_continuation", token lineContinuation 1),
  ("positional_separator", "/"),
  ("keyword_separator", "*")]

def grammar : Grammar where
  rules := simpleStatements ++ compoundStatements ++ casePatterns ++ patterns ++ operations ++
    literals
  extras := [ref "comment", .leaf (.token ⟨.chars separators, 0, false⟩), ref "line_continuation"]
  externals := [.rule "_newline", .rule "_indent", .rule "_dedent", .rule "string_start",
    .rule "_string_content", .rule "escape_interpolation", .rule "string_end",
    .rule "comment", .token (.literal "]"), .token (.literal ")"), .token (.literal "\x7d"),
    .token (.literal "except")]
  inlined := ["_simple_statement", "_compound_statement", "_suite", "_expressions",
    "_left_hand_side", "keyword_identifier"]
  supertypes := ["_simple_statement", "_compound_statement", "expression",
    "primary_expression", "pattern", "parameter"]
  word := some "identifier"

end SourceIndex.PythonGrammar
