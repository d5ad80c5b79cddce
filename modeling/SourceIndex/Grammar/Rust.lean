import SourceIndex.Grammar.Rule
import SourceIndex.Text.Unicode

set_option autoImplicit false

namespace SourceIndex.RustGrammar

open Rule

def call : Int := 15
def member : Int := 14
def question : Int := 13
def unary : Int := 12
def cast : Int := 11
def multiplicative : Int := 10
def additive : Int := 9
def shift : Int := 8
def bitAnd : Int := 7
def bitXor : Int := 6
def bitOr : Int := 5
def comparative : Int := 4
def conjunction : Int := 3
def disjunction : Int := 2
def range : Int := 1
def assign : Int := 0
def closure : Int := -1

def binaryOperators : List (Int × List String) := [
  (conjunction, ["&&"]),
  (disjunction, ["||"]),
  (bitAnd, ["&"]),
  (bitOr, ["|"]),
  (bitXor, ["^"]),
  (comparative, ["==", "!=", "<", "<=", ">", ">="]),
  (shift, ["<<", ">>"]),
  (additive, ["+", "-"]),
  (multiplicative, ["*", "/", "%"])]

def assignmentOperators : List String :=
  ["+=", "-=", "*=", "/=", "%=", "&=", "|=", "^=", "<<=", ">>="]

def numericTypes : List String :=
  ["u8", "i8", "u16", "i16", "u32", "i32", "u64", "i64", "u128", "i128", "isize", "usize",
    "f32", "f64"]

def primitiveTypes : List String := numericTypes ++ ["bool", "str", "char"]

/-- Punctuation that stands for itself inside a tree of tokens. -/
def treePunctuation : List String :=
  ["+", "-", "*", "/", "%", "^", "!", "&", "|", "&&", "||", "<<", ">>", "+=", "-=", "*=", "/=",
    "%=", "^=", "&=", "|=", "<<=", ">>=", "=", "==", "!=", ">", "<", ">=", "<=", "@", "_", ".",
    "..", "...", "..=", ",", ";", ":", "::", "->", "=>", "#", "?"]

def treeWords : List String :=
  ["as", "async", "await", "break", "const", "continue", "default", "enum", "fn", "for", "gen",
    "if", "impl", "let", "loop", "match", "mod", "pub", "return", "static", "struct", "trait",
    "type", "union", "unsafe", "use", "where", "while"]

def literals (texts : List String) : Pattern := .alt (texts.map .text)

def integer : Pattern :=
  .seq [
    .alt [
      .seq [.digit, .many (.chars (.range '0' '9' ∪ .ofString "_"))],
      .seq [.text "0x", .many1 (.chars (
        .range '0' '9' ∪ .range 'a' 'f' ∪ .range 'A' 'F' ∪ .ofString "_"))],
      .seq [.text "0b", .many1 (.oneOf "01_")],
      .seq [.text "0o", .many1 (.chars (.range '0' '7' ∪ .ofString "_"))]],
    .opt (literals numericTypes)]

def escaped : Pattern :=
  .alt [
    .noneOf "xu",
    .seq [.text "u", .repeated .hexDigit 4 4],
    .seq [.text "u\x7b", .many1 .hexDigit, .text "\x7d"],
    .seq [.text "x", .repeated .hexDigit 2 2]]

def escapeSequence : Pattern := .seq [.text "\\", escaped]

def character : Pattern :=
  .seq [.opt (.text "b"), .text "'", .opt (.alt [escapeSequence, .noneOf "\\'"]), .text "'"]

def identifier : Pattern :=
  .seq [.opt (.text "r#"), .chars (Unicode.identifierStart ∪ .ofString "_"),
    .many (.chars (Unicode.identifierContinue ∪ .ofString "_"))]

def wordSet : CharSet :=
  .range '0' '9' ∪ .range 'a' 'z' ∪ .range 'A' 'Z' ∪ .ofString "_"

def metavariable : Pattern :=
  .seq [.text "$", .chars (.range 'a' 'z' ∪ .range 'A' 'Z' ∪ .ofString "_"),
    .many (.chars wordSet)]

def restOfLine : Pattern := .many .anyInLine

def shebang : Pattern := .seq [.text "#!", .noneOf "[\r\n", .many (.noneOf "\r\n")]

def sep1 (separator : String) (rule : Rule Reference) : Rule Reference :=
  seq [rule, many (seq [separator, rule])]

/-- Any number of `rule` with commas between them and perhaps one at the end. -/
def listOf (rule : Rule Reference) : Rule Reference := seq [commaSep rule, opt ","]

def listOf1 (rule : Rule Reference) : Rule Reference := seq [commaSep1 rule, opt ","]

def visible : Rule Reference := opt (ref "visibility_modifier")

def attributes : Rule Reference := many (ref "attribute_item")

def optField (name rule : String) : Rule Reference := field name (opt (ref rule))

def primitiveAs (name : String) : Rule Reference := renamed name (anyOf primitiveTypes)

def inBrackets (rule : Rule Reference) (after : Rule Reference := .seq []) : Rule Reference :=
  match after with
  | .seq [] => choice [seq ["(", rule, ")"], seq ["[", rule, "]"], braced rule]
  | _ => choice [seq ["(", rule, ")", after], seq ["[", rule, "]", after], braced rule]

def statements : List (String × Rule Reference) := [
  ("source_file", seq [opt (ref "shebang"), many (ref "_statement")]),
  ("_statement", choice [ref "expression_statement", ref "_declaration_statement"]),
  ("empty_statement", ";"),
  ("expression_statement", choice [
    seq [ref "_expression", ";"],
    prec 1 (ref "_expression_ending_with_block")]),
  ("_declaration_statement", choice [
    ref "const_item", ref "macro_invocation", ref "macro_definition", ref "empty_statement",
    ref "attribute_item", ref "inner_attribute_item", ref "mod_item", ref "foreign_mod_item",
    ref "struct_item", ref "union_item", ref "enum_item", ref "type_item", ref "function_item",
    ref "function_signature_item", ref "impl_item", ref "trait_item", ref "associated_type",
    ref "let_declaration", ref "use_declaration", ref "extern_crate_declaration",
    ref "static_item"]),
  ("macro_definition", seq ["macro_rules!",
    field "name" (choice [ref "identifier", ref "_reserved_identifier"]),
    inBrackets (seq [many (seq [ref "macro_rule", ";"]), opt (ref "macro_rule")]) ";"]),
  ("macro_rule", seq [
    field "left" (ref "token_tree_pattern"), "=>", field "right" (ref "token_tree")]),
  ("_token_pattern", choice [ref "token_tree_pattern", ref "token_repetition_pattern",
    ref "token_binding_pattern", ref "metavariable", ref "_non_special_token"]),
  ("token_tree_pattern", inBrackets (many (ref "_token_pattern"))),
  ("token_binding_pattern", prec 1 (seq [
    field "name" (ref "metavariable"), ":", field "type" (ref "fragment_specifier")])),
  ("token_repetition_pattern", seq ["$", "(", many (ref "_token_pattern"), ")",
    opt (Pattern.many1 (.noneOf "+*?")), choice ["+", "*", "?"]]),
  ("fragment_specifier", anyOf [
    "block", "expr", "expr_2021", "ident", "item", "lifetime", "literal", "meta", "pat",
    "pat_param", "path", "stmt", "tt", "ty", "vis"]),
  ("_tokens", choice [
    ref "token_tree", ref "token_repetition", ref "metavariable", ref "_non_special_token"]),
  ("token_tree", inBrackets (many (ref "_tokens"))),
  ("token_repetition", seq ["$", "(", many (ref "_tokens"), ")",
    opt (Pattern.many1 (.noneOf "+*?")), choice ["+", "*", "?"]]),
  ("_non_special_token", choice ([
    ref "_literal", ref "identifier", ref "mutable_specifier", ref "self", ref "super",
    ref "crate", primitiveAs "primitive_type",
    right (many1 (anyOf treePunctuation)), "'"] ++
    treeWords.map fun (word : String) => (word : Rule Reference)))]

def functionHead : List (Rule Reference) := [
  visible, opt (ref "function_modifiers"), "fn",
  field "name" (choice [ref "identifier", ref "metavariable"]),
  optField "type_parameters" "type_parameters",
  field "parameters" (ref "parameters"),
  opt (seq ["->", field "return_type" (ref "_type")]),
  opt (ref "where_clause")]

def declarations : List (String × Rule Reference) := [
  ("attribute_item", seq ["#", "[", ref "attribute", "]"]),
  ("inner_attribute_item", seq ["#", "!", "[", ref "attribute", "]"]),
  ("attribute", seq [ref "_path", opt (choice [
    seq ["=", field "value" (ref "_expression")],
    field "arguments" (renamed "token_tree" (ref "delim_token_tree"))])]),
  ("mod_item", seq [visible, "mod", field "name" (ref "identifier"),
    choice [";", field "body" (ref "declaration_list")]]),
  ("foreign_mod_item", seq [visible, ref "extern_modifier",
    choice [";", field "body" (ref "declaration_list")]]),
  ("declaration_list", braced (many (ref "_declaration_statement"))),
  ("struct_item", seq [visible, "struct", field "name" (ref "_type_identifier"),
    optField "type_parameters" "type_parameters",
    choice [
      seq [opt (ref "where_clause"), field "body" (ref "field_declaration_list")],
      seq [field "body" (ref "ordered_field_declaration_list"), opt (ref "where_clause"), ";"],
      ";"]]),
  ("union_item", seq [visible, "union", field "name" (ref "_type_identifier"),
    optField "type_parameters" "type_parameters", opt (ref "where_clause"),
    field "body" (ref "field_declaration_list")]),
  ("enum_item", seq [visible, "enum", field "name" (ref "_type_identifier"),
    optField "type_parameters" "type_parameters", opt (ref "where_clause"),
    field "body" (ref "enum_variant_list")]),
  ("enum_variant_list", braced (listOf (seq [attributes, ref "enum_variant"]))),
  ("enum_variant", seq [visible, field "name" (ref "identifier"),
    field "body" (opt (choice [
      ref "field_declaration_list", ref "ordered_field_declaration_list"])),
    opt (seq ["=", field "value" (ref "_expression")])]),
  ("field_declaration_list", braced (listOf (seq [attributes, ref "field_declaration"]))),
  ("field_declaration", seq [visible, field "name" (ref "_field_identifier"), ":",
    field "type" (ref "_type")]),
  ("ordered_field_declaration_list", seq ["(",
    listOf (seq [attributes, visible, field "type" (ref "_type")]), ")"]),
  ("extern_crate_declaration", seq [visible, "extern", ref "crate",
    field "name" (ref "identifier"), opt (seq ["as", field "alias" (ref "identifier")]), ";"]),
  ("const_item", seq [visible, "const", field "name" (ref "identifier"), ":",
    field "type" (ref "_type"), opt (seq ["=", field "value" (ref "_expression")]), ";"]),
  ("static_item", seq [visible, "static", opt "ref", opt (ref "mutable_specifier"),
    field "name" (ref "identifier"), ":", field "type" (ref "_type"),
    opt (seq ["=", field "value" (ref "_expression")]), ";"]),
  ("type_item", seq [visible, "type", field "name" (ref "_type_identifier"),
    optField "type_parameters" "type_parameters", opt (ref "where_clause"), "=",
    field "type" (ref "_type"), opt (ref "where_clause"), ";"]),
  ("function_item", seq (functionHead ++ [field "body" (ref "block")])),
  ("function_signature_item", seq (functionHead ++ [(";" : Rule Reference)])),
  ("function_modifiers", many1 (choice [
    "async", "default", "const", "unsafe", ref "extern_modifier"])),
  ("where_clause", right (seq ["where", opt (listOf1 (ref "where_predicate"))])),
  ("where_predicate", seq [
    field "left" (choice [
      ref "lifetime", ref "_type_identifier", ref "scoped_type_identifier",
      ref "generic_type", ref "reference_type", ref "pointer_type", ref "tuple_type",
      ref "array_type", ref "higher_ranked_trait_bound", primitiveAs "primitive_type"]),
    field "bounds" (ref "trait_bounds")]),
  ("impl_item", seq [opt "unsafe", "impl", optField "type_parameters" "type_parameters",
    opt (seq [opt "!",
      field "trait" (choice [
        ref "_type_identifier", ref "scoped_type_identifier", ref "generic_type"]),
      "for"]),
    field "type" (ref "_type"), opt (ref "where_clause"),
    choice [field "body" (ref "declaration_list"), ";"]]),
  ("trait_item", seq [visible, opt "unsafe", "trait", field "name" (ref "_type_identifier"),
    optField "type_parameters" "type_parameters", optField "bounds" "trait_bounds",
    opt (ref "where_clause"), field "body" (ref "declaration_list")]),
  ("associated_type", seq ["type", field "name" (ref "_type_identifier"),
    optField "type_parameters" "type_parameters", optField "bounds" "trait_bounds",
    opt (ref "where_clause"), ";"]),
  ("trait_bounds", seq [":", sep1 "+" (choice [
    ref "_type", ref "lifetime", ref "higher_ranked_trait_bound"])]),
  ("higher_ranked_trait_bound", seq ["for", field "type_parameters" (ref "type_parameters"),
    field "type" (ref "_type")]),
  ("removed_trait_bound", seq ["?", ref "_type"]),
  ("type_parameters", prec 1 (seq ["<",
    listOf1 (seq [attributes, choice [
      ref "metavariable", ref "type_parameter", ref "lifetime_parameter",
      ref "const_parameter"]]),
    ">"])),
  ("const_parameter", seq ["const", field "name" (ref "identifier"), ":",
    field "type" (ref "_type"),
    opt (seq ["=", field "value" (choice [
      ref "block", ref "identifier", ref "_literal", ref "negative_literal"])])]),
  ("type_parameter", prec 1 (seq [field "name" (ref "_type_identifier"),
    opt (field "bounds" (ref "trait_bounds")),
    opt (seq ["=", field "default_type" (ref "_type")])])),
  ("lifetime_parameter", prec 1 (seq [field "name" (ref "lifetime"),
    opt (field "bounds" (ref "trait_bounds"))])),
  ("let_declaration", seq ["let", opt (ref "mutable_specifier"),
    field "pattern" (ref "_pattern"), opt (seq [":", field "type" (ref "_type")]),
    opt (seq ["=", field "value" (ref "_expression")]),
    opt (seq ["else", field "alternative" (ref "block")]), ";"]),
  ("use_declaration", seq [visible, "use", field "argument" (ref "_use_clause"), ";"]),
  ("_use_clause", choice [
    ref "_path", ref "use_as_clause", ref "use_list", ref "scoped_use_list",
    ref "use_wildcard"]),
  ("scoped_use_list", seq [optField "path" "_path", "::", field "list" (ref "use_list")]),
  ("use_list", braced (listOf (choice [ref "_use_clause"]))),
  ("use_as_clause", seq [
    field "path" (ref "_path"), "as", field "alias" (ref "identifier")]),
  ("use_wildcard", seq [opt (seq [opt (ref "_path"), "::"]), "*"]),
  ("parameters", seq ["(",
    listOf (seq [opt (ref "attribute_item"), choice [
      ref "parameter", ref "self_parameter", ref "variadic_parameter", "_", ref "_type"]]),
    ")"]),
  ("self_parameter", seq [
    opt "&", opt (ref "lifetime"), opt (ref "mutable_specifier"), ref "self"]),
  ("variadic_parameter", seq [opt (ref "mutable_specifier"),
    opt (seq [field "pattern" (ref "_pattern"), ":"]), "..."]),
  ("parameter", seq [opt (ref "mutable_specifier"),
    field "pattern" (choice [ref "_pattern", ref "self"]), ":", field "type" (ref "_type")]),
  ("extern_modifier", seq ["extern", opt (ref "string_literal")]),
  ("visibility_modifier", choice [
    ref "crate",
    seq ["pub", opt (seq ["(",
      choice [ref "self", ref "super", ref "crate", seq ["in", ref "_path"]], ")"])]])]

def types : List (String × Rule Reference) := [
  ("_type", choice [
    ref "abstract_type", ref "reference_type", ref "metavariable", ref "pointer_type",
    ref "generic_type", ref "scoped_type_identifier", ref "tuple_type", ref "unit_type",
    ref "array_type", ref "function_type", ref "_type_identifier", ref "macro_invocation",
    ref "never_type", ref "dynamic_type", ref "bounded_type", ref "removed_trait_bound",
    primitiveAs "primitive_type"]),
  ("bracketed_type", seq ["<", choice [ref "_type", ref "qualified_type"], ">"]),
  ("qualified_type", seq [field "type" (ref "_type"), "as", field "alias" (ref "_type")]),
  ("lifetime", prec 1 (seq ["'", ref "identifier"])),
  ("array_type", seq ["[", field "element" (ref "_type"),
    opt (seq [";", field "length" (ref "_expression")]), "]"]),
  ("for_lifetimes", seq ["for", "<", listOf1 (ref "lifetime"), ">"]),
  ("function_type", seq [opt (ref "for_lifetimes"),
    prec call (seq [
      choice [
        field "trait" (choice [ref "_type_identifier", ref "scoped_type_identifier"]),
        seq [opt (ref "function_modifiers"), "fn"]],
      field "parameters" (ref "parameters")]),
    opt (seq ["->", field "return_type" (ref "_type")])]),
  ("tuple_type", seq ["(", listOf1 (ref "_type"), ")"]),
  ("unit_type", seq ["(", ")"]),
  ("generic_function", prec 1 (seq [
    field "function" (choice [
      ref "identifier", ref "scoped_identifier", ref "field_expression"]),
    "::", field "type_arguments" (ref "type_arguments")])),
  ("generic_type", prec 1 (seq [
    field "type" (choice [
      ref "_type_identifier", ref "_reserved_identifier", ref "scoped_type_identifier"]),
    field "type_arguments" (ref "type_arguments")])),
  ("generic_type_with_turbofish", seq [
    field "type" (choice [ref "_type_identifier", ref "scoped_identifier"]),
    "::", field "type_arguments" (ref "type_arguments")]),
  ("bounded_type", left (seq [
    choice [ref "lifetime", ref "_type", ref "use_bounds"], "+",
    choice [ref "lifetime", ref "_type", ref "use_bounds"]]) (-1)),
  ("use_bounds", seq ["use", token (.text "<") 1,
    listOf (choice [ref "lifetime", ref "_type_identifier"]), ">"]),
  ("type_arguments", seq [token (.text "<") 1,
    listOf1 (seq [
      choice [ref "_type", ref "type_binding", ref "lifetime", ref "_literal", ref "block"],
      opt (ref "trait_bounds")]),
    ">"]),
  ("type_binding", seq [field "name" (ref "_type_identifier"),
    optField "type_arguments" "type_arguments", "=", field "type" (ref "_type")]),
  ("reference_type", seq ["&", opt (ref "lifetime"), opt (ref "mutable_specifier"),
    field "type" (ref "_type")]),
  ("pointer_type", seq ["*", choice ["const", ref "mutable_specifier"],
    field "type" (ref "_type")]),
  ("never_type", "!"),
  ("abstract_type", seq ["impl", opt (seq ["for", ref "type_parameters"]),
    field "trait" (prec 1 (choice [
      ref "_type_identifier", ref "scoped_type_identifier", ref "removed_trait_bound",
      ref "generic_type", ref "function_type", ref "tuple_type", ref "bounded_type"]))]),
  ("dynamic_type", seq ["dyn",
    field "trait" (prec 1 (choice [
      ref "higher_ranked_trait_bound", ref "_type_identifier", ref "scoped_type_identifier",
      ref "generic_type", ref "function_type", ref "tuple_type"]))]),
  ("mutable_specifier", "mut")]

def labelled (rule : List (Rule Reference)) : Rule Reference :=
  seq (opt (seq [ref "label", ":"]) :: rule)

def binaryRules : Rule Reference :=
  choice (binaryOperators.map fun (level, operators) =>
    left (seq [field "left" (ref "_expression"), field "operator" (anyOf operators),
      field "right" (ref "_expression")]) level)

def pathBefore (others : List (Rule Reference)) : Rule Reference :=
  field "path" (opt (choice (ref "_path" :: others)))

def turbofish : Rule Reference := renamed "generic_type" (ref "generic_type_with_turbofish")

def expressions : List (String × Rule Reference) := [
  ("_expression_except_range", choice [
    ref "unary_expression", ref "reference_expression", ref "try_expression",
    ref "binary_expression", ref "assignment_expression", ref "compound_assignment_expr",
    ref "type_cast_expression", ref "call_expression", ref "return_expression",
    ref "yield_expression", ref "_literal", left (ref "identifier"),
    primitiveAs "identifier", left (ref "_reserved_identifier"), ref "self",
    ref "scoped_identifier", ref "generic_function", ref "await_expression",
    ref "field_expression", ref "array_expression", ref "tuple_expression",
    prec 1 (ref "macro_invocation"), ref "unit_expression", ref "break_expression",
    ref "continue_expression", ref "index_expression", ref "metavariable",
    ref "closure_expression", ref "parenthesized_expression", ref "struct_expression",
    ref "_expression_ending_with_block"]),
  ("_expression", choice [ref "_expression_except_range", ref "range_expression"]),
  ("_expression_ending_with_block", choice [
    ref "unsafe_block", ref "async_block", ref "gen_block", ref "try_block", ref "block",
    ref "if_expression", ref "match_expression", ref "while_expression",
    ref "loop_expression", ref "for_expression", ref "const_block"]),
  ("macro_invocation", seq [
    field "macro" (choice [
      ref "scoped_identifier", ref "identifier", ref "_reserved_identifier"]),
    "!", renamed "token_tree" (ref "delim_token_tree")]),
  ("delim_token_tree", inBrackets (many (ref "_delim_tokens"))),
  ("_delim_tokens", choice [
    ref "_non_delim_token", renamed "token_tree" (ref "delim_token_tree")]),
  ("_non_delim_token", choice [ref "_non_special_token", "$"]),
  ("scoped_identifier", seq [
    pathBefore [ref "bracketed_type", turbofish], "::",
    field "name" (choice [ref "identifier", ref "super"])]),
  ("scoped_type_identifier_in_expression_position", prec (-2) (seq [
    pathBefore [turbofish], "::", field "name" (ref "_type_identifier")])),
  ("scoped_type_identifier", seq [
    pathBefore [turbofish, ref "bracketed_type", ref "generic_type"], "::",
    field "name" (ref "_type_identifier")]),
  ("range_expression", left (choice [
    seq [ref "_expression", choice ["..", "...", "..="], ref "_expression"],
    seq [ref "_expression", ".."],
    seq ["..", ref "_expression"],
    ".."]) range),
  ("unary_expression", prec unary (seq [choice ["-", "*", "!"], ref "_expression"])),
  ("try_expression", prec question (seq [ref "_expression", "?"])),
  ("reference_expression", prec unary (seq ["&",
    choice [
      seq ["raw", choice ["const", ref "mutable_specifier"]],
      opt (ref "mutable_specifier")],
    field "value" (ref "_expression")])),
  ("binary_expression", binaryRules),
  ("assignment_expression", left (seq [
    field "left" (ref "_expression"), "=", field "right" (ref "_expression")]) assign),
  ("compound_assignment_expr", left (seq [
    field "left" (ref "_expression"), field "operator" (anyOf assignmentOperators),
    field "right" (ref "_expression")]) assign),
  ("type_cast_expression", left (seq [
    field "value" (ref "_expression"), "as", field "type" (ref "_type")]) cast),
  ("return_expression", choice [left (seq ["return", ref "_expression"]), prec (-1) "return"]),
  ("yield_expression", choice [left (seq ["yield", ref "_expression"]), prec (-1) "yield"]),
  ("call_expression", prec call (seq [
    field "function" (ref "_expression_except_range"), field "arguments" (ref "arguments")])),
  ("arguments", seq ["(", listOf (seq [attributes, ref "_expression"]), ")"]),
  ("array_expression", seq ["[", attributes,
    choice [
      seq [ref "_expression", ";", field "length" (ref "_expression")],
      listOf (seq [attributes, ref "_expression"])],
    "]"]),
  ("parenthesized_expression", seq ["(", ref "_expression", ")"]),
  ("tuple_expression", seq ["(", attributes, seq [ref "_expression", ","],
    many (seq [ref "_expression", ","]), opt (ref "_expression"), ")"]),
  ("unit_expression", seq ["(", ")"]),
  ("struct_expression", seq [
    field "name" (choice [
      ref "_type_identifier",
      renamed "scoped_type_identifier" (ref "scoped_type_identifier_in_expression_position"),
      ref "generic_type_with_turbofish"]),
    field "body" (ref "field_initializer_list")]),
  ("field_initializer_list", braced (listOf (choice [
    ref "shorthand_field_initializer", ref "field_initializer",
    ref "base_field_initializer"]))),
  ("shorthand_field_initializer", seq [attributes, ref "identifier"]),
  ("field_initializer", seq [attributes,
    field "field" (choice [ref "_field_identifier", ref "integer_literal"]), ":",
    field "value" (ref "_expression")]),
  ("base_field_initializer", seq ["..", ref "_expression"]),
  ("if_expression", right (seq ["if", field "condition" (ref "_condition"),
    field "consequence" (ref "block"), opt (field "alternative" (ref "else_clause"))])),
  ("let_condition", seq ["let", field "pattern" (ref "_pattern"), "=",
    field "value" (left (ref "_expression") conjunction)]),
  ("_let_chain", left (choice [
    seq [ref "_let_chain", "&&", ref "let_condition"],
    seq [ref "_let_chain", "&&", ref "_expression"],
    seq [ref "let_condition", "&&", ref "_expression"],
    seq [ref "let_condition", "&&", ref "let_condition"],
    seq [ref "_expression", "&&", ref "let_condition"]]) conjunction),
  ("_condition", choice [
    ref "_expression", ref "let_condition", renamed "let_chain" (ref "_let_chain")]),
  ("else_clause", seq ["else", choice [ref "block", ref "if_expression"]]),
  ("match_expression", seq ["match", field "value" (ref "_expression"),
    field "body" (ref "match_block")]),
  ("match_block", braced (opt (seq [
    many (ref "match_arm"), renamed "match_arm" (ref "last_match_arm")]))),
  ("match_arm", right (seq [
    many (choice [ref "attribute_item", ref "inner_attribute_item"]),
    field "pattern" (ref "match_pattern"), "=>",
    choice [
      seq [field "value" (ref "_expression"), ","],
      field "value" (prec 1 (ref "_expression_ending_with_block"))]])),
  ("last_match_arm", seq [
    many (choice [ref "attribute_item", ref "inner_attribute_item"]),
    field "pattern" (ref "match_pattern"), "=>", field "value" (ref "_expression"),
    opt ","]),
  ("match_pattern", seq [ref "_pattern",
    opt (seq ["if", field "condition" (ref "_condition")])]),
  ("while_expression", labelled ["while", field "condition" (ref "_condition"),
    field "body" (ref "block")]),
  ("loop_expression", labelled ["loop", field "body" (ref "block")]),
  ("for_expression", labelled ["for", field "pattern" (ref "_pattern"), "in",
    field "value" (ref "_expression"), field "body" (ref "block")]),
  ("const_block", seq ["const", field "body" (ref "block")]),
  ("closure_expression", prec closure (seq [opt "static", opt "async", opt "move",
    field "parameters" (ref "closure_parameters"),
    choice [
      seq [opt (seq ["->", field "return_type" (ref "_type")]), field "body" (ref "block")],
      field "body" (choice [ref "_expression", "_"])]])),
  ("closure_parameters", seq ["|", commaSep (choice [ref "_pattern", ref "parameter"]), "|"]),
  ("label", seq ["'", ref "identifier"]),
  ("break_expression", left (seq ["break", opt (ref "label"), opt (ref "_expression")])),
  ("continue_expression", left (seq ["continue", opt (ref "label")])),
  ("index_expression", prec call (seq [ref "_expression", "[", ref "_expression", "]"])),
  ("await_expression", prec member (seq [ref "_expression", ".", "await"])),
  ("field_expression", prec member (seq [field "value" (ref "_expression"), ".",
    field "field" (choice [ref "_field_identifier", ref "integer_literal"])])),
  ("unsafe_block", seq ["unsafe", ref "block"]),
  ("async_block", seq ["async", opt "move", ref "block"]),
  ("gen_block", seq ["gen", opt "move", ref "block"]),
  ("try_block", seq ["try", ref "block"]),
  ("block", labelled [lbrace, many (ref "_statement"), opt (ref "_expression"), rbrace])]

def patterns : List (String × Rule Reference) := [
  ("_pattern", choice [
    ref "_literal_pattern", primitiveAs "identifier", ref "identifier",
    ref "scoped_identifier", ref "generic_pattern", ref "tuple_pattern",
    ref "tuple_struct_pattern", ref "struct_pattern", ref "_reserved_identifier",
    ref "ref_pattern", ref "slice_pattern", ref "captured_pattern", ref "reference_pattern",
    ref "remaining_field_pattern", ref "mut_pattern", ref "range_pattern", ref "or_pattern",
    ref "const_block", ref "macro_invocation", "_"]),
  ("generic_pattern", seq [field "type" (choice [ref "identifier", ref "scoped_identifier"]),
    "::", field "type_arguments" (ref "type_arguments")]),
  ("tuple_pattern", seq ["(", listOf (choice [ref "_pattern", ref "closure_expression"]), ")"]),
  ("slice_pattern", seq ["[", listOf (ref "_pattern"), "]"]),
  ("tuple_struct_pattern", seq [
    field "type" (choice [ref "identifier", ref "scoped_identifier", turbofish]),
    "(", listOf (ref "_pattern"), ")"]),
  ("struct_pattern", seq [
    field "type" (choice [ref "_type_identifier", ref "scoped_type_identifier"]),
    braced (listOf (choice [ref "field_pattern", ref "remaining_field_pattern"]))]),
  ("field_pattern", seq [opt "ref", opt (ref "mutable_specifier"),
    choice [
      field "name" (renamed "shorthand_field_identifier" (ref "identifier")),
      seq [field "name" (choice [ref "_field_identifier", ref "integer_literal"]), ":",
        field "pattern" (ref "_pattern")]]]),
  ("remaining_field_pattern", ".."),
  ("mut_pattern", prec (-1) (seq [ref "mutable_specifier", ref "_pattern"])),
  ("range_pattern", choice [
    seq [field "left" (choice [ref "_literal_pattern", ref "_path"]),
      choice [
        seq [choice ["...", "..=", ".."],
          field "right" (choice [ref "_literal_pattern", ref "_path"])],
        ".."]],
    seq [choice ["..=", ".."], field "right" (choice [ref "_literal_pattern", ref "_path"])]]),
  ("ref_pattern", seq ["ref", ref "_pattern"]),
  ("captured_pattern", seq [ref "identifier", "@", ref "_pattern"]),
  ("reference_pattern", seq ["&", opt (ref "mutable_specifier"), ref "_pattern"]),
  ("or_pattern", left (choice [
    seq [ref "_pattern", "|", ref "_pattern"], seq ["|", ref "_pattern"]]) (-2))]

def plainLiterals : List (Rule Reference) := [
  ref "string_literal", ref "raw_string_literal", ref "char_literal", ref "boolean_literal",
  ref "integer_literal", ref "float_literal"]

def leaves : List (String × Rule Reference) := [
  ("_literal", choice plainLiterals),
  ("_literal_pattern", choice (plainLiterals ++ [ref "negative_literal"])),
  ("negative_literal", seq ["-", choice [ref "integer_literal", ref "float_literal"]]),
  ("integer_literal", token integer),
  ("string_literal", seq [
    spelled "\"" (Pattern.seq [.opt (.oneOf "bc"), .text "\""]),
    many (choice [ref "escape_sequence", ref "string_content"]),
    immediate (.text "\"")]),
  ("raw_string_literal", seq [ref "_raw_string_literal_start",
    renamed "string_content" (ref "raw_string_literal_content"),
    ref "_raw_string_literal_end"]),
  ("char_literal", token character),
  ("escape_sequence", immediate escapeSequence),
  ("boolean_literal", choice ["true", "false"]),
  ("comment", choice [ref "line_comment", ref "block_comment"]),
  ("line_comment", seq ["//", choice [
    seq [immediate (.text "//") 2, restOfLine],
    seq [ref "_line_doc_comment_marker",
      field "doc" (renamed "doc_comment" (ref "_line_doc_content"))],
    immediate restOfLine 1]]),
  ("_line_doc_comment_marker", choice [
    field "outer" (renamed "outer_doc_comment_marker" (ref "_outer_line_doc_comment_marker")),
    field "inner" (renamed "inner_doc_comment_marker" (ref "_inner_line_doc_comment_marker"))]),
  ("_inner_line_doc_comment_marker", immediate (.text "!") 2),
  ("_outer_line_doc_comment_marker", immediate (.text "/") 2),
  ("block_comment", seq ["/*",
    opt (choice [
      seq [ref "_block_doc_comment_marker",
        opt (field "doc" (renamed "doc_comment" (ref "_block_comment_content")))],
      ref "_block_comment_content"]),
    "*/"]),
  ("_block_doc_comment_marker", choice [
    field "outer" (renamed "outer_doc_comment_marker" (ref "_outer_block_doc_comment_marker")),
    field "inner" (renamed "inner_doc_comment_marker" (ref "_inner_block_doc_comment_marker"))]),
  ("_path", choice [
    ref "self", primitiveAs "identifier", ref "metavariable", ref "super", ref "crate",
    ref "identifier", ref "scoped_identifier", ref "_reserved_identifier"]),
  ("identifier", identifier),
  ("shebang", shebang),
  ("_reserved_identifier", renamed "identifier" (anyOf ["default", "union", "gen", "raw"])),
  ("_type_identifier", renamed "type_identifier" (ref "identifier")),
  ("_field_identifier", renamed "field_identifier" (ref "identifier")),
  ("self", "self"),
  ("super", "super"),
  ("crate", "crate"),
  ("metavariable", metavariable)]

def grammar : Grammar where
  rules := statements ++ declarations ++ types ++ expressions ++ patterns ++ leaves
  extras := [.leaf (.token ⟨.chars Pattern.blankSet, 0, false⟩), ref "line_comment",
    ref "block_comment"]
  externals := [.rule "string_content", .rule "_raw_string_literal_start",
    .rule "raw_string_literal_content", .rule "_raw_string_literal_end", .rule "float_literal",
    .rule "_outer_block_doc_comment_marker", .rule "_inner_block_doc_comment_marker",
    .rule "_block_comment_content", .rule "_line_doc_content", .rule "_error_sentinel"]
  inlined := ["_path", "_type_identifier", "_tokens", "_field_identifier",
    "_non_special_token", "_declaration_statement", "_reserved_identifier",
    "_expression_ending_with_block"]
  supertypes := ["_expression", "_type", "_literal", "_literal_pattern",
    "_declaration_statement", "_pattern"]
  word := some "identifier"

end SourceIndex.RustGrammar
