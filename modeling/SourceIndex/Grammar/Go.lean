import SourceIndex.Grammar.Rule
import SourceIndex.Text.Unicode

set_option autoImplicit false

namespace SourceIndex.GoGrammar

open Rule

def primary : Int := 7
def unary : Int := 6
def multiplicative : Int := 5
def additive : Int := 4
def comparative : Int := 3
def conjunction : Int := 2
def disjunction : Int := 1
def composite : Int := -1

def multiplicativeOperators : List String := ["*", "/", "%", "<<", ">>", "&", "&^"]
def additiveOperators : List String := ["+", "-", "|", "^"]
def comparativeOperators : List String := ["==", "!=", "<", "<=", ">", ">="]

def assignmentOperators : List String :=
  (multiplicativeOperators ++ additiveOperators).map (· ++ "=") ++ ["="]

/-- What ends a statement: a line feed, a semicolon or the end of the text. -/
def terminator : Rule Reference := choice ["\n", ";", "\x00"]

def optUnderscore : Pattern := .opt (.seq [.oneOf "_"])

def digitsOf (digit : Pattern) : Pattern :=
  .seq [digit, .many (.seq [optUnderscore, digit])]

def hexDigits : Pattern := digitsOf .hexDigit
def octalDigit : Pattern := .range '0' '7'
def octalDigits : Pattern := digitsOf octalDigit
def decimalDigits : Pattern := digitsOf .digit
def binaryDigits : Pattern := digitsOf (.range '0' '1')

def hexLiteral : Pattern := .seq [.text "0", .oneOf "xX", optUnderscore, hexDigits]
def octalLiteral : Pattern := .seq [.text "0", .opt (.oneOf "oO"), optUnderscore, octalDigits]

def decimalLiteral : Pattern :=
  .alt [.text "0", .seq [.range '1' '9', .opt (.seq [optUnderscore, decimalDigits])]]

def binaryLiteral : Pattern := .seq [.text "0", .oneOf "bB", optUnderscore, binaryDigits]
def intLiteral : Pattern := .alt [binaryLiteral, decimalLiteral, octalLiteral, hexLiteral]

def decimalExponent : Pattern := .seq [.oneOf "eE", .opt (.oneOf "+-"), decimalDigits]

def decimalFloat : Pattern :=
  .alt [
    .seq [decimalDigits, .text ".", .opt decimalDigits, .opt decimalExponent],
    .seq [decimalDigits, decimalExponent],
    .seq [.text ".", decimalDigits, .opt decimalExponent]]

def hexExponent : Pattern := .seq [.oneOf "pP", .opt (.oneOf "+-"), decimalDigits]

def hexMantissa : Pattern :=
  .alt [
    .seq [optUnderscore, hexDigits, .text ".", .opt hexDigits],
    .seq [optUnderscore, hexDigits],
    .seq [.text ".", hexDigits]]

def hexFloat : Pattern := .seq [.text "0", .oneOf "xX", hexMantissa, hexExponent]
def floatLiteral : Pattern := .alt [decimalFloat, hexFloat]
def imaginaryLiteral : Pattern :=
  .seq [.alt [decimalDigits, intLiteral, floatLiteral], .text "i"]

def escapeSequence : Pattern :=
  .seq [.text "\\", .alt [
    .noneOf "xuU",
    .repeated .digit 2 3,
    .seq [.text "x", .repeated .hexDigit 2 2, .many .hexDigit],
    .seq [.text "u", .repeated .hexDigit 4 4],
    .seq [.text "U", .repeated .hexDigit 8 8]]]

def runeLiteral : Pattern :=
  .seq [.text "'",
    .alt [.noneOf "'\\",
      .seq [.text "\\", .alt [
        .seq [.text "x", .repeated .hexDigit 2 2],
        .repeated octalDigit 3 3,
        .seq [.text "u", .repeated .hexDigit 4 4],
        .seq [.text "U", .repeated .hexDigit 8 8],
        .oneOf "abfnrtv\\'\""]]],
    .text "'"]

def comment : Pattern :=
  .alt [
    .seq [.text "//", .many .anyInLine],
    .seq [.text "/*", .many (.noneOf "*"), .many1 (.text "*"),
      .many (.seq [.noneOf "/*", .many (.noneOf "*"), .many1 (.text "*")]), .text "/"]]

def identifier : Pattern :=
  .seq [.chars (.singleton '_' ∪ Unicode.identifierStart),
    .many (.chars (.singleton '_' ∪ Unicode.identifierContinue))]

def result : Rule Reference :=
  field "result" (opt (choice [ref "parameter_list", ref "_simple_type"]))

/-- `element`, separated and possibly ended by terminators. -/
def terminated (element : Rule Reference) : Rule Reference :=
  opt (seq [element, many (seq [terminator, element]), opt terminator])

def labelName : Rule Reference := renamed "label_name" (ref "identifier")

def declarations : List (String × Rule Reference) := [
  ("source_file", seq [
    many (choice [
      seq [ref "_statement", terminator],
      seq [ref "_top_level_declaration", terminator]]),
    opt (ref "_top_level_declaration")]),
  ("_top_level_declaration", choice [ref "package_clause", ref "function_declaration",
    ref "method_declaration", ref "import_declaration"]),
  ("package_clause", seq ["package", ref "_package_identifier"]),
  ("import_declaration", seq ["import", choice [ref "import_spec", ref "import_spec_list"]]),
  ("import_spec", seq [
    opt (field "name" (choice [ref "dot", ref "blank_identifier", ref "_package_identifier"])),
    field "path" (ref "_string_literal")]),
  ("dot", "."),
  ("blank_identifier", "_"),
  ("import_spec_list", seq ["(", terminated (ref "import_spec"), ")"]),
  ("_declaration", choice [ref "const_declaration", ref "type_declaration",
    ref "var_declaration"]),
  ("const_declaration", seq ["const", choice [ref "const_spec",
    seq ["(", many (seq [ref "const_spec", terminator]), ")"]]]),
  ("const_spec", left (seq [
    field "name" (commaSep1 (ref "identifier")),
    opt (seq [opt (field "type" (ref "_type")), "=",
      field "value" (ref "expression_list")])])),
  ("var_declaration", seq ["var", choice [ref "var_spec", ref "var_spec_list"]]),
  ("var_spec", seq [
    commaSep1 (field "name" (ref "identifier")),
    choice [
      seq [field "type" (ref "_type"), opt (seq ["=", field "value" (ref "expression_list")])],
      seq ["=", field "value" (ref "expression_list")]]]),
  ("var_spec_list", seq ["(", many (seq [ref "var_spec", terminator]), ")"]),
  ("function_declaration", right (seq [
    "func",
    field "name" (ref "identifier"),
    field "type_parameters" (opt (ref "type_parameter_list")),
    field "parameters" (ref "parameter_list"),
    result,
    field "body" (opt (ref "block"))]) 1),
  ("method_declaration", right (seq [
    "func",
    field "receiver" (ref "parameter_list"),
    field "name" (ref "_field_identifier"),
    field "parameters" (ref "parameter_list"),
    result,
    field "body" (opt (ref "block"))]) 1),
  ("type_parameter_list", seq ["[", commaSep1 (ref "type_parameter_declaration"), opt ",", "]"]),
  ("type_parameter_declaration", seq [
    commaSep1 (field "name" (ref "identifier")),
    field "type" (renamed "type_constraint" (ref "type_elem"))]),
  ("parameter_list", seq ["(",
    opt (seq [
      commaSep (choice [ref "parameter_declaration", ref "variadic_parameter_declaration"]),
      opt ","]),
    ")"]),
  ("parameter_declaration", seq [
    commaSep (field "name" (ref "identifier")),
    field "type" (ref "_type")]),
  ("variadic_parameter_declaration", seq [
    field "name" (opt (ref "identifier")), "...", field "type" (ref "_type")]),
  ("type_alias", seq [field "name" (ref "_type_identifier"),
    field "type_parameters" (opt (ref "type_parameter_list")), "=",
    field "type" (ref "_type")]),
  ("type_declaration", seq ["type", choice [
    ref "type_spec",
    ref "type_alias",
    seq ["(", many (seq [choice [ref "type_spec", ref "type_alias"], terminator]), ")"]]]),
  ("type_spec", seq [
    field "name" (ref "_type_identifier"),
    field "type_parameters" (opt (ref "type_parameter_list")),
    field "type" (ref "_type")])]

def types : List (String × Rule Reference) := [
  ("field_name_list", commaSep1 (ref "_field_identifier")),
  ("expression_list", commaSep1 (ref "_expression")),
  ("_type", choice [ref "_simple_type", ref "parenthesized_type"]),
  ("parenthesized_type", seq ["(", ref "_type", ")"]),
  ("_simple_type", choice [
    dynamic (-1) (ref "_type_identifier"),
    ref "generic_type", ref "qualified_type", ref "pointer_type", ref "struct_type",
    ref "interface_type", ref "array_type", ref "slice_type", ref "map_type",
    ref "channel_type", ref "function_type", ref "negated_type"]),
  ("generic_type", dynamic 1 (seq [
    field "type" (choice [ref "_type_identifier", ref "qualified_type", ref "negated_type"]),
    field "type_arguments" (ref "type_arguments")])),
  ("type_arguments", dynamic 2 (seq ["[", commaSep1 (ref "type_elem"), opt ",", "]"])),
  ("pointer_type", prec unary (seq ["*", ref "_type"])),
  ("array_type", right (seq [
    "[", field "length" (ref "_expression"), "]", field "element" (ref "_type")])),
  ("implicit_length_array_type", seq ["[", "...", "]", field "element" (ref "_type")]),
  ("slice_type", right (seq ["[", "]", field "element" (ref "_type")])),
  ("struct_type", seq ["struct", ref "field_declaration_list"]),
  ("negated_type", left (seq ["~", ref "_type"])),
  ("field_declaration_list", braced (terminated (ref "field_declaration"))),
  ("field_declaration", seq [
    choice [
      seq [commaSep1 (field "name" (ref "_field_identifier")), field "type" (ref "_type")],
      seq [opt "*",
        field "type" (choice [ref "_type_identifier", ref "qualified_type",
          ref "generic_type"])]],
    field "tag" (opt (ref "_string_literal"))]),
  ("interface_type", seq ["interface", braced (terminated (ref "_interface_elem"))]),
  ("_interface_elem", choice [ref "method_elem", ref "type_elem"]),
  ("method_elem", seq [
    field "name" (ref "_field_identifier"),
    field "parameters" (ref "parameter_list"),
    result]),
  ("type_elem", seq [ref "_type", many (seq ["|", ref "_type"])]),
  ("map_type", right (seq [
    "map", "[", field "key" (ref "_type"), "]", field "value" (ref "_type")])),
  ("channel_type", left (choice [
    seq ["chan", field "value" (ref "_type")],
    seq ["chan", "<-", field "value" (ref "_type")],
    prec unary (seq ["<-", "chan", field "value" (ref "_type")])])),
  ("function_type", right (seq ["func", field "parameters" (ref "parameter_list"), result]))]

def statements : List (String × Rule Reference) := [
  ("block", braced (opt (ref "_statement_list"))),
  ("_statement_list", choice [
    seq [
      ref "_statement",
      many (seq [terminator, ref "_statement"]),
      opt (seq [terminator,
        opt (renamed "labeled_statement" (ref "empty_labeled_statement"))])],
    renamed "labeled_statement" (ref "empty_labeled_statement")]),
  ("_statement", choice [
    ref "_declaration", ref "_simple_statement", ref "return_statement", ref "go_statement",
    ref "defer_statement", ref "if_statement", ref "for_statement",
    ref "expression_switch_statement", ref "type_switch_statement", ref "select_statement",
    ref "labeled_statement", ref "fallthrough_statement", ref "break_statement",
    ref "continue_statement", ref "goto_statement", ref "block", ref "empty_statement"]),
  ("empty_statement", ";"),
  ("_simple_statement", choice [
    ref "expression_statement", ref "send_statement", ref "inc_statement", ref "dec_statement",
    ref "assignment_statement", ref "short_var_declaration"]),
  ("expression_statement", ref "_expression"),
  ("send_statement", seq [
    field "channel" (ref "_expression"), "<-", field "value" (ref "_expression")]),
  ("receive_statement", seq [
    opt (seq [field "left" (ref "expression_list"), choice ["=", ":="]]),
    field "right" (ref "_expression")]),
  ("inc_statement", seq [ref "_expression", "++"]),
  ("dec_statement", seq [ref "_expression", "--"]),
  ("assignment_statement", seq [
    field "left" (ref "expression_list"),
    field "operator" (anyOf assignmentOperators),
    field "right" (ref "expression_list")]),
  ("short_var_declaration", seq [
    field "left" (ref "expression_list"), ":=", field "right" (ref "expression_list")]),
  ("labeled_statement", seq [field "label" labelName, ":", ref "_statement"]),
  ("empty_labeled_statement", seq [field "label" labelName, ":"]),
  ("fallthrough_statement", left "fallthrough"),
  ("break_statement", seq ["break", opt labelName]),
  ("continue_statement", seq ["continue", opt labelName]),
  ("goto_statement", seq ["goto", labelName]),
  ("return_statement", seq ["return", opt (ref "expression_list")]),
  ("go_statement", seq ["go", ref "_expression"]),
  ("defer_statement", seq ["defer", ref "_expression"]),
  ("if_statement", seq [
    "if",
    opt (seq [field "initializer" (ref "_simple_statement"), ";"]),
    field "condition" (ref "_expression"),
    field "consequence" (ref "block"),
    opt (seq ["else", field "alternative" (choice [ref "block", ref "if_statement"])])]),
  ("for_statement", seq [
    "for",
    opt (choice [ref "_expression", ref "for_clause", ref "range_clause"]),
    field "body" (ref "block")]),
  ("for_clause", seq [
    field "initializer" (opt (ref "_simple_statement")), ";",
    field "condition" (opt (ref "_expression")), ";",
    field "update" (opt (ref "_simple_statement"))]),
  ("range_clause", seq [
    opt (seq [field "left" (ref "expression_list"), choice ["=", ":="]]),
    "range",
    field "right" (ref "_expression")]),
  ("expression_switch_statement", seq [
    "switch",
    opt (seq [field "initializer" (ref "_simple_statement"), ";"]),
    field "value" (opt (ref "_expression")),
    braced (many (choice [ref "expression_case", ref "default_case"]))]),
  ("expression_case", seq [
    "case", field "value" (ref "expression_list"), ":", opt (ref "_statement_list")]),
  ("default_case", seq ["default", ":", opt (ref "_statement_list")]),
  ("type_switch_statement", seq [
    "switch",
    ref "_type_switch_header",
    braced (many (choice [ref "type_case", ref "default_case"]))]),
  ("_type_switch_header", seq [
    opt (seq [field "initializer" (ref "_simple_statement"), ";"]),
    opt (seq [field "alias" (ref "expression_list"), ":="]),
    field "value" (ref "_expression"), ".", "(", "type", ")"]),
  ("type_case", seq [
    "case", field "type" (commaSep1 (ref "_type")), ":", opt (ref "_statement_list")]),
  ("select_statement", seq ["select",
    braced (many (choice [ref "communication_case", ref "default_case"]))]),
  ("communication_case", seq [
    "case",
    field "communication" (choice [ref "send_statement", ref "receive_statement"]),
    ":",
    opt (ref "_statement_list")])]

def allocator : Rule Reference := renamed "identifier" (choice ["new", "make"])

def binary (level : Int) (operators : Rule Reference) : Rule Reference :=
  left (seq [
    field "left" (ref "_expression"),
    field "operator" operators,
    field "right" (ref "_expression")]) level

def expressions : List (String × Rule Reference) := [
  ("_expression", choice [
    ref "unary_expression", ref "binary_expression", ref "selector_expression",
    ref "index_expression", ref "slice_expression", ref "call_expression",
    ref "type_assertion_expression", ref "type_conversion_expression",
    ref "type_instantiation_expression", ref "identifier", allocator,
    ref "composite_literal", ref "func_literal", ref "_string_literal", ref "int_literal",
    ref "float_literal", ref "imaginary_literal", ref "rune_literal", ref "nil", ref "true",
    ref "false", ref "iota", ref "parenthesized_expression"]),
  ("parenthesized_expression", seq ["(", ref "_expression", ")"]),
  ("call_expression", prec primary (choice [
    seq [
      field "function" allocator,
      field "arguments" (renamed "argument_list" (ref "special_argument_list"))],
    seq [
      field "function" (ref "_expression"),
      field "type_arguments" (opt (ref "type_arguments")),
      field "arguments" (ref "argument_list")]])),
  ("variadic_argument", right (seq [ref "_expression", "..."])),
  ("special_argument_list", seq ["(",
    opt (seq [ref "_type", many (seq [",", ref "_expression"]), opt ","]), ")"]),
  ("argument_list", seq ["(",
    opt (seq [commaSep1 (choice [ref "_expression", ref "variadic_argument"]), opt ","]), ")"]),
  ("selector_expression", prec primary (seq [
    field "operand" (ref "_expression"), ".", field "field" (ref "_field_identifier")])),
  ("index_expression", prec primary (seq [
    field "operand" (ref "_expression"), "[", field "index" (ref "_expression"), "]"])),
  ("slice_expression", prec primary (seq [
    field "operand" (ref "_expression"), "[",
    choice [
      seq [field "start" (opt (ref "_expression")), ":",
        field "end" (opt (ref "_expression"))],
      seq [field "start" (opt (ref "_expression")), ":", field "end" (ref "_expression"), ":",
        field "capacity" (ref "_expression")]],
    "]"])),
  ("type_assertion_expression", prec primary (seq [
    field "operand" (ref "_expression"), ".", "(", field "type" (ref "_type"), ")"])),
  ("type_conversion_expression", dynamic (-1) (seq [
    field "type" (ref "_type"), "(", field "operand" (ref "_expression"), opt ",", ")"])),
  ("type_instantiation_expression", prec primary (seq [
    field "type" (ref "_type"), "[", commaSep1 (ref "_type"), opt ",", "]"])),
  ("composite_literal", prec composite (seq [
    field "type" (choice [ref "map_type", ref "slice_type", ref "array_type",
      ref "implicit_length_array_type", ref "struct_type", ref "_type_identifier",
      ref "generic_type", ref "qualified_type"]),
    field "body" (ref "literal_value")])),
  ("literal_value", braced (opt (seq [
    commaSep (choice [ref "literal_element", ref "keyed_element"]), opt ","]))),
  ("literal_element", choice [ref "_expression", ref "literal_value"]),
  ("keyed_element", seq [
    field "key" (ref "literal_element"), ":", field "value" (ref "literal_element")]),
  ("func_literal", seq [
    "func", field "parameters" (ref "parameter_list"), result, field "body" (ref "block")]),
  ("unary_expression", prec unary (seq [
    field "operator" (anyOf ["+", "-", "!", "^", "*", "&", "<-"]),
    field "operand" (ref "_expression")])),
  ("binary_expression", choice [
    binary multiplicative (anyOf multiplicativeOperators),
    binary additive (anyOf additiveOperators),
    binary comparative (anyOf comparativeOperators),
    binary conjunction "&&",
    binary disjunction "||"]),
  ("qualified_type", seq [
    field "package" (ref "_package_identifier"), ".", field "name" (ref "_type_identifier")])]

def lexical : List (String × Rule Reference) := [
  ("identifier", identifier),
  ("_type_identifier", renamed "type_identifier" (ref "identifier")),
  ("_field_identifier", renamed "field_identifier" (ref "identifier")),
  ("_package_identifier", renamed "package_identifier" (ref "identifier")),
  ("_string_literal", choice [ref "raw_string_literal", ref "interpreted_string_literal"]),
  ("raw_string_literal", token (.seq [.text "`", .many (.noneOf "`"), .text "`"])),
  ("interpreted_string_literal", seq [
    "\"",
    many (choice [
      renamed "interpreted_string_literal_content"
        (immediate (.many1 (.noneOf "\"\n\\")) 1),
      ref "escape_sequence"]),
    immediate (.text "\"")]),
  ("escape_sequence", immediate escapeSequence),
  ("int_literal", token intLiteral),
  ("float_literal", token floatLiteral),
  ("imaginary_literal", token imaginaryLiteral),
  ("rune_literal", token runeLiteral),
  ("nil", "nil"),
  ("true", "true"),
  ("false", "false"),
  ("iota", "iota"),
  ("comment", token comment)]

def grammar : Grammar where
  rules := declarations ++ types ++ statements ++ expressions ++ lexical
  extras := [ref "comment", Pattern.blank]
  externals := []
  inlined := ["_type_identifier", "_field_identifier", "_package_identifier",
    "_top_level_declaration", "_string_literal", "_interface_elem"]
  supertypes := ["_expression", "_type", "_simple_type", "_statement", "_simple_statement"]
  word := some "identifier"

end SourceIndex.GoGrammar
