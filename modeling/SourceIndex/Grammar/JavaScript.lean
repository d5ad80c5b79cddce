import SourceIndex.Grammar.Rule
import SourceIndex.Text.Unicode

set_option autoImplicit false

namespace SourceIndex.JavaScriptGrammar

open Rule

def separators : CharSet :=
  Pattern.blankSet ∪ Unicode.spaceSeparator ∪
    .ofRanges [(0xFEFF, 0xFEFF), (0x2028, 0x2029), (0x2060, 0x2060), (0x200B, 0x200B)]

def identifierStops : CharSet :=
  separators ∪ .ofRanges [(0, 0x1F)] ∪ .ofString ":;`\"'@#.,|^&<=>+-*/\\%?!~()[]\x7b\x7d"

def unicodeEscape : List Pattern := [
  .seq [.text "\\u", .repeated .hexDigit 4 4],
  .seq [.text "\\u\x7b", .many1 .hexDigit, .text "\x7d"]]

def identifierStart : Pattern :=
  .alt (.chars (identifierStops ∪ .range '0' '9').complement :: unicodeEscape)

def identifierPart : Pattern := .alt (.chars identifierStops.complement :: unicodeEscape)

def identifier : Pattern := .seq [identifierStart, .many identifierPart]

def privateIdentifier : Pattern := .seq [.text "#", identifierStart, .many identifierPart]

def digits (digit : Pattern) : Pattern :=
  .seq [digit, .many (.seq [.opt (.text "_"), digit])]

def decimalDigits : Pattern := digits .digit

def exponent : Pattern :=
  .seq [.alt [.text "e", .text "E"], .opt (.alt [.text "-", .text "+"]), decimalDigits]

def decimalInteger : Pattern :=
  .alt [.text "0",
    .seq [.opt (.text "0"), .range '1' '9', .opt (.seq [.opt (.text "_"), decimalDigits])]]

def radixLiteral (lower upper : String) (digit : Pattern) : Pattern :=
  .seq [.alt [.text lower, .text upper], digits digit]

def hexLiteral : Pattern := radixLiteral "0x" "0X" .hexDigit
def binaryLiteral : Pattern := radixLiteral "0b" "0B" (.range '0' '1')
def octalLiteral : Pattern := radixLiteral "0o" "0O" (.range '0' '7')

def decimalLiteral : Pattern :=
  .alt [
    .seq [decimalInteger, .text ".", .opt decimalDigits, .opt exponent],
    .seq [.text ".", decimalDigits, .opt exponent],
    .seq [decimalInteger, exponent],
    decimalDigits]

def number : Pattern :=
  .alt [hexLiteral, decimalLiteral, binaryLiteral, octalLiteral,
    .seq [.alt [hexLiteral, binaryLiteral, octalLiteral, decimalDigits], .text "n"]]

def escapeSequence : Pattern :=
  .seq [.text "\\", .alt [
    .chars (CharSet.ofString "xu" ∪ .range '0' '7').complement,
    .repeated (.range '0' '7') 1 3,
    .seq [.text "x", .repeated .hexDigit 2 2],
    .seq [.text "u", .repeated .hexDigit 4 4],
    .seq [.text "u\x7b", .many1 .hexDigit, .text "\x7d"],
    .seq [.oneOf "\r?", .chars (.ofRanges [(10, 10), (0x2028, 0x2029)])]]]

def comment : Pattern :=
  .alt [
    .seq [.text "//", .many (.chars (CharSet.ofRanges
      [(10, 10), (13, 13), (0x2028, 0x2029)]).complement)],
    .seq [.text "/*", .many (.noneOf "*"), .many1 (.text "*"),
      .many (.seq [.noneOf "/*", .many (.noneOf "*"), .many1 (.text "*")]), .text "/"]]

def regexPattern : Pattern :=
  .many1 (.alt [
    .seq [.text "[",
      .many (.alt [.seq [.text "\\", .anyInLine], .noneOf "]\n\\"]),
      .text "]"],
    .seq [.text "\\", .anyInLine],
    .noneOf "/\\[\n"])

def characterReference : Pattern :=
  .seq [.text "&",
    .alt [
      .seq [.text "#", .alt [
        .seq [.oneOf "xX", .repeated .hexDigit 1 6],
        .repeated .digit 1 5]],
      .repeated (.chars (.range 'A' 'Z' ∪ .range 'a' 'z')) 1 30],
    .text ";"]

def nameSet : CharSet := .range 'a' 'z' ∪ .range 'A' 'Z' ∪ .ofString "_$"

def jsxIdentifier : Pattern :=
  .seq [.chars nameSet, .many (.chars (nameSet ∪ .range '0' '9')), .text "-",
    .many (.chars (nameSet ∪ .range '0' '9' ∪ .ofString "-"))]

/-- Text of an attribute up to `quote`, with ampersands that begin no reference. -/
def attributeText (quote : String) : Pattern :=
  .many1 (.alt [
    .noneOf (quote ++ "&"),
    .seq [.text "&",
      .chars (CharSet.ofString "#" ∪ .range 'A' 'Z' ∪ .range 'a' 'z').complement]])

def staticGet : Pattern :=
  .seq [.text "static", .many1 .blank, .text "get", .many .blank, .text "\n"]

def modules : List (String × Rule Reference) := [
  ("program", seq [opt (ref "hash_bang_line"), many (ref "statement")]),
  ("hash_bang_line", Pattern.seq [.text "#!", .many .anyInLine]),
  ("export_statement", choice [
    seq ["export",
      choice [
        seq ["*", ref "_from_clause"],
        seq [ref "namespace_export", ref "_from_clause"],
        seq [ref "export_clause", ref "_from_clause"],
        ref "export_clause"],
      ref "_semicolon"],
    seq [
      many (field "decorator" (ref "decorator")),
      "export",
      choice [
        field "declaration" (ref "declaration"),
        seq ["default", choice [
          field "declaration" (ref "declaration"),
          seq [field "value" (ref "expression"), ref "_semicolon"]]]]]]),
  ("namespace_export", seq ["*", "as", ref "_module_export_name"]),
  ("export_clause", braced (seq [commaSep (ref "export_specifier"), opt ","])),
  ("export_specifier", seq [
    field "name" (ref "_module_export_name"),
    opt (seq ["as", field "alias" (ref "_module_export_name")])]),
  ("_module_export_name", choice [ref "identifier", ref "string", "default"]),
  ("declaration", choice [ref "function_declaration", ref "generator_function_declaration",
    ref "class_declaration", ref "lexical_declaration", ref "variable_declaration"]),
  ("import", "import"),
  ("import_statement", seq [
    "import",
    choice [
      seq [ref "import_clause", ref "_from_clause"],
      field "source" (ref "string")],
    opt (ref "import_attribute"),
    ref "_semicolon"]),
  ("import_clause", choice [
    ref "namespace_import",
    ref "named_imports",
    seq [ref "identifier",
      opt (seq [",", choice [ref "namespace_import", ref "named_imports"]])]]),
  ("_from_clause", seq ["from", field "source" (ref "string")]),
  ("namespace_import", seq ["*", "as", ref "identifier"]),
  ("named_imports", braced (seq [commaSep (ref "import_specifier"), opt ","])),
  ("import_specifier", choice [
    field "name" (ref "identifier"),
    seq [
      field "name" (choice [ref "_module_export_name", renamed "identifier" "default"]),
      "as",
      field "alias" (ref "identifier")]]),
  ("import_attribute", seq ["with", ref "object"])]

def label : Rule Reference :=
  field "label" (opt (renamed "statement_identifier" (ref "identifier")))

def binding : Rule Reference := choice [ref "identifier", ref "_destructuring_pattern"]

def statements : List (String × Rule Reference) := [
  ("statement", choice [
    ref "export_statement", ref "import_statement", ref "debugger_statement",
    ref "expression_statement", ref "declaration", ref "statement_block", ref "if_statement",
    ref "switch_statement", ref "for_statement", ref "for_in_statement", ref "while_statement",
    ref "do_statement", ref "try_statement", ref "with_statement", ref "break_statement",
    ref "continue_statement", ref "return_statement", ref "throw_statement",
    ref "empty_statement", ref "labeled_statement"]),
  ("expression_statement", seq [ref "_expressions", ref "_semicolon"]),
  ("variable_declaration", seq [
    "var", commaSep1 (ref "variable_declarator"), ref "_semicolon"]),
  ("lexical_declaration", seq [
    field "kind" (choice ["let", "const"]),
    commaSep1 (ref "variable_declarator"),
    ref "_semicolon"]),
  ("variable_declarator", seq [field "name" binding, opt (ref "_initializer")]),
  ("statement_block", right (seq [
    lbrace, many (ref "statement"), rbrace, opt (ref "_automatic_semicolon")])),
  ("else_clause", seq ["else", ref "statement"]),
  ("if_statement", right (seq [
    "if",
    field "condition" (ref "parenthesized_expression"),
    field "consequence" (ref "statement"),
    opt (field "alternative" (ref "else_clause"))])),
  ("switch_statement", seq [
    "switch",
    field "value" (ref "parenthesized_expression"),
    field "body" (ref "switch_body")]),
  ("for_statement", seq [
    "for", "(",
    choice [
      field "initializer" (choice [ref "lexical_declaration", ref "variable_declaration"]),
      seq [field "initializer" (ref "_expressions"), ";"],
      field "initializer" (ref "empty_statement")],
    field "condition" (choice [seq [ref "_expressions", ";"], ref "empty_statement"]),
    field "increment" (opt (ref "_expressions")),
    ")",
    field "body" (ref "statement")]),
  ("for_in_statement", seq [
    "for", opt "await", ref "_for_header", field "body" (ref "statement")]),
  ("_for_header", seq [
    "(",
    choice [
      field "left" (choice [ref "_lhs_expression", ref "parenthesized_expression"]),
      seq [field "kind" "var", field "left" binding, opt (ref "_initializer")],
      seq [field "kind" (choice ["let", "const"]), field "left" binding,
        opt (ref "_automatic_semicolon")]],
    field "operator" (choice ["in", "of"]),
    field "right" (ref "_expressions"),
    ")"]),
  ("while_statement", seq [
    "while",
    field "condition" (ref "parenthesized_expression"),
    field "body" (ref "statement")]),
  ("do_statement", right (seq [
    "do",
    field "body" (ref "statement"),
    "while",
    field "condition" (ref "parenthesized_expression"),
    opt (ref "_semicolon")])),
  ("try_statement", seq [
    "try",
    field "body" (ref "statement_block"),
    opt (field "handler" (ref "catch_clause")),
    opt (field "finalizer" (ref "finally_clause"))]),
  ("with_statement", seq [
    "with",
    field "object" (ref "parenthesized_expression"),
    field "body" (ref "statement")]),
  ("break_statement", seq ["break", label, ref "_semicolon"]),
  ("continue_statement", seq ["continue", label, ref "_semicolon"]),
  ("debugger_statement", seq ["debugger", ref "_semicolon"]),
  ("return_statement", seq ["return", opt (ref "_expressions"), ref "_semicolon"]),
  ("throw_statement", seq ["throw", ref "_expressions", ref "_semicolon"]),
  ("empty_statement", ";"),
  ("labeled_statement", dynamic (-1) (seq [
    field "label" (renamed "statement_identifier"
      (choice [ref "identifier", ref "_reserved_identifier"])),
    ":",
    field "body" (ref "statement")])),
  ("switch_body", braced (many (choice [ref "switch_case", ref "switch_default"]))),
  ("switch_case", seq [
    "case", field "value" (ref "_expressions"), ":", field "body" (many (ref "statement"))]),
  ("switch_default", seq ["default", ":", field "body" (many (ref "statement"))]),
  ("catch_clause", seq [
    "catch",
    opt (seq ["(", field "parameter" binding, ")"]),
    field "body" (ref "statement_block")]),
  ("finally_clause", seq ["finally", field "body" (ref "statement_block")]),
  ("parenthesized_expression", seq ["(", ref "_expressions", ")"])]

def reserved : Rule Reference := renamed "identifier" (ref "_reserved_identifier")

def sparse (choices : List (Rule Reference)) : Rule Reference := commaSep (opt (choice choices))

def shorthand (name : String) (rules : List (Rule Reference)) : Rule Reference :=
  renamed name (choice rules)

def expressions : List (String × Rule Reference) := [
  ("_expressions", choice [ref "expression", ref "sequence_expression"]),
  ("expression", choice [
    ref "primary_expression", ref "_jsx_element", ref "assignment_expression",
    ref "augmented_assignment_expression", ref "await_expression", ref "unary_expression",
    ref "binary_expression", ref "ternary_expression", ref "update_expression",
    ref "new_expression", ref "yield_expression"]),
  ("primary_expression", choice [
    ref "subscript_expression", ref "member_expression", ref "parenthesized_expression",
    ref "_identifier", reserved, ref "this", ref "super", ref "number", ref "string",
    ref "template_string", ref "regex", ref "true", ref "false", ref "null", ref "object",
    ref "array", ref "function_expression", ref "arrow_function", ref "generator_function",
    ref "class", ref "meta_property", ref "call_expression"]),
  ("yield_expression", right (seq [
    "yield", choice [seq ["*", ref "expression"], opt (ref "expression")]])),
  ("object", precNamed "object" (braced (sparse [
    ref "pair", ref "spread_element", ref "method_definition",
    shorthand "shorthand_property_identifier"
      [ref "identifier", ref "_reserved_identifier"]]))),
  ("object_pattern", precNamed "object" (braced (sparse [
    ref "pair_pattern", ref "rest_pattern", ref "object_assignment_pattern",
    shorthand "shorthand_property_identifier_pattern"
      [ref "identifier", ref "_reserved_identifier"]]))),
  ("assignment_pattern", seq [
    field "left" (ref "pattern"), "=", field "right" (ref "expression")]),
  ("object_assignment_pattern", seq [
    field "left" (choice [
      shorthand "shorthand_property_identifier_pattern"
        [ref "_reserved_identifier", ref "identifier"],
      ref "_destructuring_pattern"]),
    "=",
    field "right" (ref "expression")]),
  ("array", seq ["[", sparse [ref "expression", ref "spread_element"], "]"]),
  ("array_pattern", seq ["[", sparse [ref "pattern", ref "assignment_pattern"], "]"])]

def markup : List (String × Rule Reference) := [
  ("_jsx_element", choice [ref "jsx_element", ref "jsx_self_closing_element"]),
  ("jsx_element", seq [
    field "open_tag" (ref "jsx_opening_element"),
    many (ref "_jsx_child"),
    field "close_tag" (ref "jsx_closing_element")]),
  ("html_character_reference", .leaf (.token ⟨characterReference, 0, false⟩)),
  ("jsx_expression", braced (opt (choice [
    ref "expression", ref "sequence_expression", ref "spread_element"]))),
  ("_jsx_child", choice [
    ref "jsx_text", ref "html_character_reference", ref "_jsx_element",
    ref "jsx_expression"]),
  ("jsx_opening_element", dynamic (-1) (seq [
    "<",
    opt (seq [field "name" (ref "_jsx_element_name"),
      many (field "attribute" (ref "_jsx_attribute"))]),
    ">"])),
  ("jsx_identifier", .leaf (.token ⟨jsxIdentifier, 0, false⟩)),
  ("_jsx_identifier", choice [renamed "identifier" (ref "jsx_identifier"), ref "identifier"]),
  ("nested_identifier", precNamed "member" (seq [
    field "object" (choice [
      ref "identifier", renamed "member_expression" (ref "nested_identifier")]),
    ".",
    field "property" (renamed "property_identifier" (ref "identifier"))])),
  ("jsx_namespace_name", seq [ref "_jsx_identifier", ":", ref "_jsx_identifier"]),
  ("_jsx_element_name", choice [
    ref "_jsx_identifier", renamed "member_expression" (ref "nested_identifier"),
    ref "jsx_namespace_name"]),
  ("jsx_closing_element", seq ["</", opt (field "name" (ref "_jsx_element_name")), ">"]),
  ("jsx_self_closing_element", seq [
    "<",
    field "name" (ref "_jsx_element_name"),
    many (field "attribute" (ref "_jsx_attribute")),
    "/>"]),
  ("_jsx_attribute", choice [ref "jsx_attribute", ref "jsx_expression"]),
  ("_jsx_attribute_name", choice [
    renamed "property_identifier" (ref "_jsx_identifier"), ref "jsx_namespace_name"]),
  ("jsx_attribute", seq [
    ref "_jsx_attribute_name", opt (seq ["=", ref "_jsx_attribute_value"])]),
  ("_jsx_string", choice [
    seq ["\"",
      many (choice [
        renamed "string_fragment" (ref "unescaped_double_jsx_string_fragment"),
        ref "html_character_reference"]),
      "\""],
    seq ["'",
      many (choice [
        renamed "string_fragment" (ref "unescaped_single_jsx_string_fragment"),
        ref "html_character_reference"]),
      "'"]]),
  ("unescaped_double_jsx_string_fragment", immediate (attributeText "\"") 1),
  ("unescaped_single_jsx_string_fragment", immediate (attributeText "'") 1),
  ("_jsx_attribute_value", choice [
    renamed "string" (ref "_jsx_string"), ref "jsx_expression", ref "_jsx_element"])]

def decorators : Rule Reference := many (field "decorator" (ref "decorator"))

def functionHead (mark : List (Rule Reference)) (name : Rule Reference) :
    List (Rule Reference) :=
  [opt "async", "function"] ++ mark ++
    [name, ref "_call_signature", field "body" (ref "statement_block")]

def optionalName : Rule Reference := field "name" (opt (ref "identifier"))

def requiredName : Rule Reference := field "name" (ref "identifier")

def functions : List (String × Rule Reference) := [
  ("class", precNamed "literal" (seq [
    decorators, "class", optionalName, opt (ref "class_heritage"),
    field "body" (ref "class_body")])),
  ("class_declaration", precNamed "declare" (seq [
    decorators, "class", requiredName, opt (ref "class_heritage"),
    field "body" (ref "class_body"), opt (ref "_automatic_semicolon")])),
  ("class_heritage", seq ["extends", ref "expression"]),
  ("function_expression", precNamed "literal" (seq (functionHead [] optionalName))),
  ("function_declaration", rightNamed "declare"
    (seq (functionHead [] requiredName ++ [opt (ref "_automatic_semicolon")]))),
  ("generator_function", precNamed "literal" (seq (functionHead ["*"] optionalName))),
  ("generator_function_declaration", rightNamed "declare"
    (seq (functionHead ["*"] requiredName ++ [opt (ref "_automatic_semicolon")]))),
  ("arrow_function", seq [
    opt "async",
    choice [
      field "parameter" (choice [reserved, ref "identifier"]),
      ref "_call_signature"],
    "=>",
    field "body" (choice [ref "expression", ref "statement_block"])]),
  ("_call_signature", field "parameters" (ref "formal_parameters")),
  ("_formal_parameter", choice [ref "pattern", ref "assignment_pattern"])]

def leftBinary (operator rank : String) : Rule Reference :=
  leftNamed rank (seq [
    field "left" (ref "expression"), field "operator" operator,
    field "right" (ref "expression")])

def operations : List (String × Rule Reference) := [
  ("optional_chain", "?."),
  ("call_expression", choice [
    precNamed "call" (seq [
      field "function" (choice [ref "expression", ref "import"]),
      field "arguments" (ref "arguments")]),
    precNamed "template_call" (seq [
      field "function" (choice [ref "primary_expression", ref "new_expression"]),
      field "arguments" (ref "template_string")]),
    precNamed "member" (seq [
      field "function" (ref "primary_expression"),
      field "optional_chain" (ref "optional_chain"),
      field "arguments" (ref "arguments")])]),
  ("new_expression", rightNamed "new" (seq [
    "new",
    field "constructor" (choice [ref "primary_expression", ref "new_expression"]),
    field "arguments" (opt (dynamic 1 (ref "arguments")))])),
  ("await_expression", precNamed "unary_void" (seq ["await", ref "expression"])),
  ("member_expression", precNamed "member" (seq [
    field "object" (choice [ref "expression", ref "primary_expression", ref "import"]),
    choice [".", field "optional_chain" (ref "optional_chain")],
    field "property" (choice [
      ref "private_property_identifier",
      renamed "property_identifier" (ref "identifier")])])),
  ("subscript_expression", rightNamed "member" (seq [
    field "object" (choice [ref "expression", ref "primary_expression"]),
    opt (field "optional_chain" (ref "optional_chain")),
    "[", field "index" (ref "_expressions"), "]"])),
  ("_lhs_expression", choice [
    ref "member_expression", ref "subscript_expression", ref "_identifier", reserved,
    ref "_destructuring_pattern"]),
  ("assignment_expression", rightNamed "assign" (seq [
    field "left" (choice [ref "parenthesized_expression", ref "_lhs_expression"]),
    "=",
    field "right" (ref "expression")])),
  ("_augmented_assignment_lhs", choice [
    ref "member_expression", ref "subscript_expression", reserved, ref "identifier",
    ref "parenthesized_expression"]),
  ("augmented_assignment_expression", rightNamed "assign" (seq [
    field "left" (ref "_augmented_assignment_lhs"),
    field "operator" (anyOf ["+=", "-=", "*=", "/=", "%=", "^=", "&=", "|=", ">>=", ">>>=",
      "<<=", "**=", "&&=", "||=", "??="]),
    field "right" (ref "expression")])),
  ("_initializer", seq ["=", field "value" (ref "expression")]),
  ("_destructuring_pattern", choice [ref "object_pattern", ref "array_pattern"]),
  ("spread_element", seq ["...", ref "expression"]),
  ("ternary_expression", rightNamed "ternary" (seq [
    field "condition" (ref "expression"),
    spelled "?" (ref "_ternary_qmark"),
    field "consequence" (ref "expression"),
    ":",
    field "alternative" (ref "expression")])),
  ("binary_expression", choice [
    leftBinary "&&" "logical_and", leftBinary "||" "logical_or",
    leftBinary ">>" "binary_shift", leftBinary ">>>" "binary_shift",
    leftBinary "<<" "binary_shift", leftBinary "&" "bitwise_and",
    leftBinary "^" "bitwise_xor", leftBinary "|" "bitwise_or",
    leftBinary "+" "binary_plus", leftBinary "-" "binary_plus",
    leftBinary "*" "binary_times", leftBinary "/" "binary_times",
    leftBinary "%" "binary_times",
    rightNamed "binary_exp" (seq [
      field "left" (ref "expression"), field "operator" "**",
      field "right" (ref "expression")]),
    leftBinary "<" "binary_relation", leftBinary "<=" "binary_relation",
    leftBinary "==" "binary_equality", leftBinary "===" "binary_equality",
    leftBinary "!=" "binary_equality", leftBinary "!==" "binary_equality",
    leftBinary ">=" "binary_relation", leftBinary ">" "binary_relation",
    leftBinary "??" "ternary", leftBinary "instanceof" "binary_relation",
    leftNamed "binary_relation" (seq [
      field "left" (choice [ref "expression", ref "private_property_identifier"]),
      field "operator" "in",
      field "right" (ref "expression")])]),
  ("unary_expression", leftNamed "unary_void" (seq [
    field "operator" (anyOf ["!", "~", "-", "+", "typeof", "void", "delete"]),
    field "argument" (ref "expression")])),
  ("update_expression", left (choice [
    seq [field "argument" (ref "expression"), field "operator" (choice ["++", "--"])],
    seq [field "operator" (choice ["++", "--"]), field "argument" (ref "expression")]])),
  ("sequence_expression", right (commaSep1 (ref "expression")))]

def quoted (quote fragment : String) : Rule Reference :=
  seq [quote,
    many (choice [renamed "string_fragment" (ref fragment), ref "escape_sequence"]), quote]

def literals : List (String × Rule Reference) := [
  ("string", choice [
    quoted "\"" "unescaped_double_string_fragment",
    quoted "'" "unescaped_single_string_fragment"]),
  ("unescaped_double_string_fragment", immediate (.many1 (.noneOf "\"\\\r\n")) 1),
  ("unescaped_single_string_fragment", immediate (.many1 (.noneOf "'\\\r\n")) 1),
  ("escape_sequence", immediate escapeSequence),
  ("comment", token comment),
  ("template_string", seq ["`",
    many (choice [
      renamed "string_fragment" (ref "_template_chars"),
      ref "escape_sequence",
      ref "template_substitution"]),
    "`"]),
  ("template_substitution", seq ["$\x7b", ref "_expressions", rbrace]),
  ("regex", seq [
    "/",
    field "pattern" (ref "regex_pattern"),
    immediate (.text "/") 1,
    opt (field "flags" (ref "regex_flags"))]),
  ("regex_pattern", immediate regexPattern (-1)),
  ("regex_flags", immediate (.many1 (.range 'a' 'z'))),
  ("number", token number),
  ("_identifier", choice [ref "undefined", ref "identifier"]),
  ("identifier", token identifier),
  ("private_property_identifier", token privateIdentifier),
  ("meta_property", choice [seq ["new", ".", "target"], seq ["import", ".", "meta"]]),
  ("this", "this"),
  ("super", "super"),
  ("true", "true"),
  ("false", "false"),
  ("null", "null"),
  ("undefined", "undefined")]

def staticMark : Rule Reference :=
  opt (choice ["static", spelled "static get" (token staticGet)])

def members : List (String × Rule Reference) := [
  ("arguments", seq ["(", sparse [ref "expression", ref "spread_element"], ")"]),
  ("decorator", seq ["@", choice [
    ref "identifier",
    renamed "member_expression" (ref "decorator_member_expression"),
    renamed "call_expression" (ref "decorator_call_expression")]]),
  ("decorator_member_expression", precNamed "member" (seq [
    field "object" (choice [
      ref "identifier", renamed "member_expression" (ref "decorator_member_expression")]),
    ".",
    field "property" (renamed "property_identifier" (ref "identifier"))])),
  ("decorator_call_expression", precNamed "call" (seq [
    field "function" (choice [
      ref "identifier", renamed "member_expression" (ref "decorator_member_expression")]),
    field "arguments" (ref "arguments")])),
  ("class_body", braced (many (choice [
    seq [field "member" (ref "method_definition"), opt ";"],
    seq [field "member" (ref "field_definition"), ref "_semicolon"],
    field "member" (ref "class_static_block"),
    ";"]))),
  ("field_definition", seq [
    decorators, staticMark, field "property" (ref "_property_name"),
    opt (ref "_initializer")]),
  ("formal_parameters", seq ["(",
    opt (seq [commaSep1 (ref "_formal_parameter"), opt ","]), ")"]),
  ("class_static_block", seq ["static", field "body" (ref "statement_block")]),
  ("pattern", dynamic (-1) (choice [ref "_lhs_expression", ref "rest_pattern"])),
  ("rest_pattern", right (seq ["...", ref "_lhs_expression"])),
  ("method_definition", seq [
    decorators,
    staticMark,
    opt "async",
    opt (anyOf ["get", "set", "*"]),
    field "name" (ref "_property_name"),
    field "parameters" (ref "formal_parameters"),
    field "body" (ref "statement_block")]),
  ("pair", seq [
    field "key" (ref "_property_name"), ":", field "value" (ref "expression")]),
  ("pair_pattern", seq [
    field "key" (ref "_property_name"), ":",
    field "value" (choice [ref "pattern", ref "assignment_pattern"])]),
  ("_property_name", choice [
    renamed "property_identifier" (choice [ref "identifier", ref "_reserved_identifier"]),
    ref "private_property_identifier", ref "string", ref "number",
    ref "computed_property_name"]),
  ("computed_property_name", seq ["[", ref "expression", "]"]),
  ("_reserved_identifier", anyOf ["get", "set", "async", "static", "export", "let"]),
  ("_semicolon", choice [ref "_automatic_semicolon", ";"])]

def orders : List (List Rank) := [
  [.precedence "member", .precedence "template_call", .precedence "call",
    .rule "update_expression", .precedence "unary_void", .precedence "binary_exp",
    .precedence "binary_times", .precedence "binary_plus", .precedence "binary_shift",
    .precedence "binary_compare", .precedence "binary_relation",
    .precedence "binary_equality", .precedence "bitwise_and", .precedence "bitwise_xor",
    .precedence "bitwise_or", .precedence "logical_and", .precedence "logical_or",
    .precedence "ternary", .rule "sequence_expression", .rule "arrow_function"],
  [.precedence "assign", .rule "primary_expression"],
  [.precedence "member", .precedence "template_call", .precedence "new", .precedence "call",
    .rule "expression"],
  [.precedence "declare", .precedence "literal"],
  [.rule "primary_expression", .rule "statement_block", .precedence "object"],
  [.rule "meta_property", .rule "import"],
  [.rule "import_statement", .rule "import"],
  [.rule "export_statement", .rule "primary_expression"],
  [.rule "lexical_declaration", .rule "primary_expression"]]

def grammar : Grammar where
  rules := modules ++ statements ++ expressions ++ markup ++ functions ++ operations ++
    literals ++ members
  extras := [ref "comment", ref "html_comment", .leaf (.token ⟨.chars separators, 0, false⟩)]
  externals := [.rule "_automatic_semicolon", .rule "_template_chars", .rule "_ternary_qmark",
    .rule "html_comment", .token (.literal "||"), .rule "escape_sequence",
    .rule "regex_pattern", .rule "jsx_text"]
  inlined := ["_call_signature", "_formal_parameter", "_expressions", "_semicolon",
    "_identifier", "_reserved_identifier", "_jsx_attribute", "_jsx_element_name",
    "_jsx_child", "_jsx_element", "_jsx_attribute_name", "_jsx_attribute_value"]
  supertypes := ["statement", "declaration", "expression", "primary_expression", "pattern"]
  word := some "identifier"
  orders

end SourceIndex.JavaScriptGrammar
