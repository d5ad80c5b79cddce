import SourceIndex.Grammar.JavaScript

set_option autoImplicit false

namespace SourceIndex.TypeScriptGrammar

open Rule
open JavaScriptGrammar (decorators requiredName optionalName binding reserved)

def extend (base changes : List (String × Rule Reference)) : List (String × Rule Reference) :=
  let replaced := base.map fun entry =>
    match changes.find? (fun change => change.1 == entry.1) with
    | some change => change
    | none => entry
  replaced ++ changes.filter fun change => !(base.any fun entry => entry.1 == change.1)

def base (name : String) : Rule Reference :=
  match JavaScriptGrammar.grammar.rules.find? (fun entry => entry.1 == name) with
  | some entry => entry.2
  | none => .blank

def typeParameters : Rule Reference := field "type_parameters" (opt (ref "type_parameters"))
def typeArguments : Rule Reference := field "type_arguments" (opt (ref "type_arguments"))
def typeAnnotation : Rule Reference := field "type" (opt (ref "type_annotation"))
def typeOrTypeof : Rule Reference := opt (choice ["type", "typeof"])
def propertyName : Rule Reference := field "name" (ref "_property_name")

def isMarkup (rule : Rule Reference) : Bool := rule == ref "_jsx_element"

/-- Expressions: markup and type assertions in angle brackets exclude each other. -/
def expressionRule (markup : Bool) : Rule Reference :=
  let previous := match base "expression" with
    | .choice rules => rules
    | rule => [rule]
  let common := [ref "as_expression", ref "satisfies_expression",
    ref "instantiation_expression", ref "internal_module"]
  if markup then choice (common ++ previous)
  else choice (common ++ [ref "type_assertion"] ++ previous.filter fun rule => !isMarkup rule)

def statements : List (String × Rule Reference) := [
  ("public_field_definition", seq [
    decorators,
    opt (choice [
      seq ["declare", opt (ref "accessibility_modifier")],
      seq [ref "accessibility_modifier", opt "declare"]]),
    choice [
      seq [opt "static", opt (ref "override_modifier"), opt "readonly"],
      seq [opt "abstract", opt "readonly"],
      seq [opt "readonly", opt "abstract"],
      opt "accessor"],
    propertyName,
    opt (choice ["?", "!"]),
    typeAnnotation,
    opt (ref "_initializer")]),
  ("catch_clause", seq [
    "catch",
    opt (seq ["(", field "parameter" binding, opt (field "type" (ref "type_annotation")), ")"]),
    field "body" (ref "statement_block")]),
  ("call_expression", choice [
    precNamed "call" (seq [
      field "function" (choice [ref "expression", ref "import"]),
      typeArguments,
      field "arguments" (ref "arguments")]),
    precNamed "template_call" (seq [
      field "function" (choice [ref "primary_expression", ref "new_expression"]),
      field "arguments" (ref "template_string")]),
    precNamed "member" (seq [
      field "function" (ref "primary_expression"),
      "?.",
      typeArguments,
      field "arguments" (ref "arguments")])]),
  ("new_expression", rightNamed "new" (seq [
    "new",
    field "constructor" (ref "primary_expression"),
    typeArguments,
    field "arguments" (opt (ref "arguments"))])),
  ("assignment_expression", rightNamed "assign" (seq [
    opt "using",
    field "left" (choice [ref "parenthesized_expression", ref "_lhs_expression"]),
    "=",
    field "right" (ref "expression")])),
  ("_augmented_assignment_lhs",
    choice [base "_augmented_assignment_lhs", ref "non_null_expression"]),
  ("_lhs_expression", choice [base "_lhs_expression", ref "non_null_expression"]),
  ("primary_expression", choice [base "primary_expression", ref "non_null_expression"]),
  ("_jsx_start_opening_element", seq [
    "<",
    opt (seq [
      choice [
        field "name" (choice [ref "_jsx_identifier", ref "jsx_namespace_name"]),
        seq [
          field "name" (choice [
            ref "identifier", renamed "member_expression" (ref "nested_identifier")]),
          typeArguments]],
      many (field "attribute" (ref "_jsx_attribute"))])]),
  ("jsx_opening_element", dynamic (-1) (seq [ref "_jsx_start_opening_element", ">"])),
  ("jsx_self_closing_element", dynamic (-1) (seq [ref "_jsx_start_opening_element", "/>"])),
  ("export_specifier", seq [typeOrTypeof, base "export_specifier"]),
  ("_import_identifier", choice [ref "identifier", renamed "identifier" "type"]),
  ("import_specifier", seq [
    typeOrTypeof,
    choice [
      field "name" (ref "_import_identifier"),
      seq [
        field "name" (choice [ref "_module_export_name", renamed "identifier" "type"]),
        "as",
        field "alias" (ref "_import_identifier")]]]),
  ("import_clause", choice [
    ref "namespace_import",
    ref "named_imports",
    seq [ref "_import_identifier",
      opt (seq [",", choice [ref "namespace_import", ref "named_imports"]])]]),
  ("import_statement", seq [
    "import",
    typeOrTypeof,
    choice [
      seq [ref "import_clause", ref "_from_clause"],
      ref "import_require_clause",
      field "source" (ref "string")],
    opt (ref "import_attribute"),
    ref "_semicolon"]),
  ("export_statement", choice [
    base "export_statement",
    seq ["export", "type", ref "export_clause", opt (ref "_from_clause"), ref "_semicolon"],
    seq ["export", "import", ref "import_alias"],
    seq ["export", "=", ref "expression", ref "_semicolon"],
    seq ["export", "as", "namespace", ref "identifier", ref "_semicolon"]]),
  ("non_null_expression", leftNamed "unary" (seq [ref "expression", "!"])),
  ("variable_declarator", choice [
    seq [field "name" binding, typeAnnotation, opt (ref "_initializer")],
    precNamed "declare" (seq [
      field "name" (ref "identifier"), "!", field "type" (ref "type_annotation")])]),
  ("method_signature", seq [
    opt (ref "accessibility_modifier"), opt "static", opt (ref "override_modifier"),
    opt "readonly", opt "async", opt (anyOf ["get", "set", "*"]),
    propertyName, opt "?", ref "_call_signature"]),
  ("abstract_method_signature", seq [
    opt (ref "accessibility_modifier"), "abstract", opt (ref "override_modifier"),
    opt (anyOf ["get", "set", "*"]),
    propertyName, opt "?", ref "_call_signature"]),
  ("parenthesized_expression", seq ["(",
    choice [
      seq [ref "expression", typeAnnotation],
      ref "sequence_expression"],
    ")"]),
  ("_formal_parameter", choice [ref "required_parameter", ref "optional_parameter"]),
  ("function_signature", seq [
    opt "async", "function", requiredName, ref "_call_signature",
    choice [ref "_semicolon", ref "_function_signature_automatic_semicolon"]]),
  ("decorator", seq ["@", choice [
    ref "identifier",
    renamed "member_expression" (ref "decorator_member_expression"),
    renamed "call_expression" (ref "decorator_call_expression"),
    renamed "parenthesized_expression" (ref "decorator_parenthesized_expression")]]),
  ("decorator_call_expression", precNamed "call" (seq [
    field "function" (choice [
      ref "identifier", renamed "member_expression" (ref "decorator_member_expression")]),
    opt (field "type_arguments" (ref "type_arguments")),
    field "arguments" (ref "arguments")])),
  ("decorator_parenthesized_expression", seq ["(",
    choice [
      ref "identifier",
      renamed "member_expression" (ref "decorator_member_expression"),
      renamed "call_expression" (ref "decorator_call_expression")],
    ")"]),
  ("class_body", braced (many (choice [
    seq [decorators, ref "method_definition", opt (ref "_semicolon")],
    seq [ref "method_signature",
      choice [ref "_function_signature_automatic_semicolon", ","]],
    ref "class_static_block",
    seq [
      choice [ref "abstract_method_signature", ref "index_signature", ref "method_signature",
        ref "public_field_definition"],
      choice [ref "_semicolon", ","]],
    ";"]))),
  ("method_definition", left (seq [
    opt (ref "accessibility_modifier"), opt "static", opt (ref "override_modifier"),
    opt "readonly", opt "async", opt (anyOf ["get", "set", "*"]),
    propertyName, opt "?", ref "_call_signature", field "body" (ref "statement_block")])),
  ("declaration", choice [
    base "declaration",
    ref "function_signature", ref "abstract_class_declaration", ref "module",
    precNamed "declare" (ref "internal_module"),
    ref "type_alias_declaration", ref "enum_declaration", ref "interface_declaration",
    ref "import_alias", ref "ambient_declaration"])]

def className : Rule Reference := field "name" (ref "_type_identifier")

def declarations : List (String × Rule Reference) := [
  ("type_assertion", leftNamed "unary" (seq [ref "type_arguments", ref "expression"])),
  ("as_expression", leftNamed "binary" (seq [
    ref "expression", "as", choice ["const", ref "type"]])),
  ("satisfies_expression", leftNamed "binary" (seq [
    ref "expression", "satisfies", ref "type"])),
  ("instantiation_expression", precNamed "instantiation" (seq [
    ref "expression", field "type_arguments" (ref "type_arguments")])),
  ("class_heritage", choice [
    seq [ref "extends_clause", opt (ref "implements_clause")],
    ref "implements_clause"]),
  ("import_require_clause", seq [
    ref "identifier", "=", "require", "(", field "source" (ref "string"), ")"]),
  ("extends_clause", seq ["extends", commaSep1 (ref "_extends_clause_single")]),
  ("_extends_clause_single", precNamed "extends" (seq [
    field "value" (ref "expression"), typeArguments])),
  ("implements_clause", seq ["implements", commaSep1 (ref "type")]),
  ("ambient_declaration", seq [
    "declare",
    choice [
      ref "declaration",
      seq ["global", ref "statement_block"],
      seq ["module", ".", renamed "property_identifier" (ref "identifier"), ":", ref "type",
        ref "_semicolon"]]]),
  ("class", precNamed "literal" (seq [
    decorators, "class", field "name" (opt (ref "_type_identifier")), typeParameters,
    opt (ref "class_heritage"), field "body" (ref "class_body")])),
  ("abstract_class_declaration", precNamed "declare" (seq [
    decorators, "abstract", "class", className, typeParameters, opt (ref "class_heritage"),
    field "body" (ref "class_body")])),
  ("class_declaration", leftNamed "declare" (seq [
    decorators, "class", className, typeParameters, opt (ref "class_heritage"),
    field "body" (ref "class_body"), opt (ref "_automatic_semicolon")])),
  ("module", seq ["module", ref "_module"]),
  ("internal_module", seq ["namespace", ref "_module"]),
  ("_module", right (seq [
    field "name" (choice [ref "string", ref "identifier", ref "nested_identifier"]),
    field "body" (opt (ref "statement_block"))])),
  ("import_alias", seq [
    "import", ref "identifier", "=", choice [ref "identifier", ref "nested_identifier"],
    ref "_semicolon"]),
  ("nested_type_identifier", precNamed "member" (seq [
    field "module" (choice [ref "identifier", ref "nested_identifier"]), ".", className])),
  ("interface_declaration", precNamed "declare" (seq [
    "interface", className, typeParameters, opt (ref "extends_type_clause"),
    field "body" (renamed "interface_body" (ref "object_type"))])),
  ("extends_type_clause", seq [
    "extends",
    commaSep1 (field "type" (choice [
      ref "_type_identifier", ref "nested_type_identifier", ref "generic_type"]))]),
  ("enum_declaration", seq [
    opt "const", "enum", requiredName, field "body" (ref "enum_body")]),
  ("enum_body", braced (opt (seq [
    commaSep1 (choice [propertyName, ref "enum_assignment"]), opt ","]))),
  ("enum_assignment", seq [propertyName, ref "_initializer"]),
  ("type_alias_declaration", seq [
    "type", className, typeParameters, "=", field "value" (ref "type"), ref "_semicolon"]),
  ("accessibility_modifier", anyOf ["public", "private", "protected"]),
  ("override_modifier", "override"),
  ("required_parameter", seq [
    ref "_parameter_name", typeAnnotation, opt (ref "_initializer")]),
  ("optional_parameter", seq [
    ref "_parameter_name", "?", typeAnnotation, opt (ref "_initializer")]),
  ("_parameter_name", seq [
    decorators, opt (ref "accessibility_modifier"), opt (ref "override_modifier"),
    opt "readonly", field "pattern" (choice [ref "pattern", ref "this"])])]

def memberInAnnotation : Rule Reference := ref "_type_query_member_expression_in_type_annotation"
def callInAnnotation : Rule Reference := ref "_type_query_call_expression_in_type_annotation"

def queriedMember : Rule Reference :=
  renamed "member_expression" (ref "_type_query_member_expression")

def queriedSubscript : Rule Reference :=
  renamed "subscript_expression" (ref "_type_query_subscript_expression")

def queriedCall : Rule Reference := renamed "call_expression" (ref "_type_query_call_expression")

def queriedObject : Rule Reference :=
  field "object" (choice [
    ref "identifier", ref "this", queriedSubscript, queriedMember, queriedCall])

def queriedFunction : Rule Reference :=
  field "function" (choice [ref "import", ref "identifier", queriedMember, queriedSubscript])

def memberName : Rule Reference :=
  field "property" (choice [
    ref "private_property_identifier", renamed "property_identifier" (ref "identifier")])

def annotations : List (String × Rule Reference) := [
  ("omitting_type_annotation", seq ["-?:", ref "type"]),
  ("adding_type_annotation", seq ["+?:", ref "type"]),
  ("opting_type_annotation", seq ["?:", ref "type"]),
  ("type_annotation", seq [":", choice [
    ref "type",
    renamed "type_query" memberInAnnotation,
    renamed "type_query" callInAnnotation]]),
  ("_type_query_member_expression_in_type_annotation", seq [
    field "object" (choice [
      ref "import",
      renamed "member_expression" memberInAnnotation,
      renamed "call_expression" callInAnnotation]),
    ".",
    memberName]),
  ("_type_query_call_expression_in_type_annotation", seq [
    field "function" (choice [
      ref "import", renamed "member_expression" memberInAnnotation]),
    field "arguments" (ref "arguments")]),
  ("asserts", seq [
    "asserts", choice [ref "type_predicate", ref "identifier", ref "this"]]),
  ("asserts_annotation", seq [":", ref "asserts"])]

def objectMember : Rule Reference :=
  choice [ref "export_statement", ref "property_signature", ref "call_signature",
    ref "construct_signature", ref "index_signature", ref "method_signature"]

def types : List (String × Rule Reference) := [
  ("type", choice [
    ref "primary_type", ref "function_type", ref "readonly_type", ref "constructor_type",
    ref "infer_type",
    prec (-1) (renamed "member_expression" memberInAnnotation),
    prec (-1) (renamed "call_expression" callInAnnotation)]),
  ("tuple_parameter", seq [
    field "name" (choice [ref "identifier", ref "rest_pattern"]),
    field "type" (ref "type_annotation")]),
  ("optional_tuple_parameter", seq [
    requiredName, "?", field "type" (ref "type_annotation")]),
  ("optional_type", seq [ref "type", "?"]),
  ("rest_type", seq ["...", ref "type"]),
  ("_tuple_type_member", choice [
    renamed "required_parameter" (ref "tuple_parameter"),
    renamed "optional_parameter" (ref "optional_tuple_parameter"),
    ref "optional_type", ref "rest_type", ref "type"]),
  ("constructor_type", left (seq [
    opt "abstract", "new", typeParameters, field "parameters" (ref "formal_parameters"),
    "=>", field "type" (ref "type")])),
  ("primary_type", choice [
    ref "parenthesized_type", ref "predefined_type", ref "_type_identifier",
    ref "nested_type_identifier", ref "generic_type", ref "object_type", ref "array_type",
    ref "tuple_type", ref "flow_maybe_type", ref "type_query", ref "index_type_query",
    renamed "this_type" (ref "this"), ref "existential_type", ref "literal_type",
    ref "lookup_type", ref "conditional_type", ref "template_literal_type",
    ref "intersection_type", ref "union_type", "const"]),
  ("template_type", seq ["$\x7b", choice [ref "primary_type", ref "infer_type"], rbrace]),
  ("template_literal_type", seq ["`",
    many (choice [renamed "string_fragment" (ref "_template_chars"), ref "template_type"]),
    "`"]),
  ("infer_type", right (seq [
    "infer", ref "_type_identifier", opt (seq ["extends", ref "type"])])),
  ("conditional_type", right (seq [
    field "left" (ref "type"), "extends", field "right" (ref "type"), "?",
    field "consequence" (ref "type"), ":", field "alternative" (ref "type")])),
  ("generic_type", precNamed "call" (seq [
    field "name" (choice [ref "_type_identifier", ref "nested_type_identifier"]),
    field "type_arguments" (ref "type_arguments")])),
  ("type_predicate", seq [
    field "name" (choice [
      ref "identifier", ref "this", renamed "identifier" (ref "predefined_type")]),
    "is",
    field "type" (ref "type")]),
  ("type_predicate_annotation", seq [seq [":", ref "type_predicate"]]),
  ("_type_query_member_expression", seq [queriedObject, choice [".", "?."], memberName]),
  ("_type_query_subscript_expression", seq [
    queriedObject, opt "?.", "[",
    field "index" (choice [ref "predefined_type", ref "string", ref "number"]), "]"]),
  ("_type_query_call_expression", seq [queriedFunction, field "arguments" (ref "arguments")]),
  ("_type_query_instantiation_expression", seq [
    queriedFunction, field "type_arguments" (ref "type_arguments")]),
  ("type_query", right (seq [
    "typeof",
    choice [queriedSubscript, queriedMember, queriedCall,
      renamed "instantiation_expression" (ref "_type_query_instantiation_expression"),
      ref "identifier", ref "this"]])),
  ("index_type_query", seq ["keyof", ref "primary_type"]),
  ("lookup_type", seq [ref "primary_type", "[", ref "type", "]"]),
  ("mapped_type_clause", seq [
    className, "in", field "type" (ref "type"), opt (seq ["as", field "alias" (ref "type")])]),
  ("literal_type", choice [
    renamed "unary_expression" (ref "_number"), ref "number", ref "string", ref "true",
    ref "false", ref "null", ref "undefined"]),
  ("_number", left (seq [
    field "operator" (choice ["-", "+"]), field "argument" (ref "number")]) 1),
  ("existential_type", "*"),
  ("flow_maybe_type", right (seq ["?", ref "primary_type"])),
  ("parenthesized_type", seq ["(", ref "type", ")"]),
  ("predefined_type", choice [
    "any", "number", "boolean", "string", "symbol",
    spelled "unique symbol" (seq ["unique", "symbol"]),
    "void", "unknown", "string", "never", "object"]),
  ("type_arguments", seq ["<", commaSep1 (ref "type"), opt ",", ">"]),
  ("object_type", seq [
    choice [lbrace, "\x7b|"],
    opt (seq [
      opt (choice [",", ";"]),
      seq [objectMember, many (seq [choice [",", ref "_semicolon"], objectMember])],
      opt (choice [",", ref "_semicolon"])]),
    choice [rbrace, "|\x7d"]]),
  ("call_signature", ref "_call_signature"),
  ("property_signature", seq [
    opt (ref "accessibility_modifier"), opt "static", opt (ref "override_modifier"),
    opt "readonly", propertyName, opt "?", typeAnnotation]),
  ("_call_signature", seq [
    typeParameters,
    field "parameters" (ref "formal_parameters"),
    field "return_type" (opt (choice [
      ref "type_annotation", ref "asserts_annotation", ref "type_predicate_annotation"]))]),
  ("type_parameters", seq ["<", commaSep1 (ref "type_parameter"), opt ",", ">"]),
  ("type_parameter", seq [
    opt "const", className,
    field "constraint" (opt (ref "constraint")),
    field "value" (opt (ref "default_type"))]),
  ("default_type", seq ["=", ref "type"]),
  ("constraint", seq [choice ["extends", ":"], ref "type"]),
  ("construct_signature", seq [
    opt "abstract", "new", typeParameters, field "parameters" (ref "formal_parameters"),
    typeAnnotation]),
  ("index_signature", seq [
    opt (seq [field "sign" (opt (choice ["-", "+"])), "readonly"]),
    "[",
    choice [
      seq [
        field "name" (choice [ref "identifier", reserved]), ":",
        field "index_type" (ref "type")],
      ref "mapped_type_clause"],
    "]",
    field "type" (choice [
      ref "type_annotation", ref "omitting_type_annotation", ref "adding_type_annotation",
      ref "opting_type_annotation"])]),
  ("array_type", seq [ref "primary_type", "[", "]"]),
  ("tuple_type", seq ["[", commaSep (ref "_tuple_type_member"), opt ",", "]"]),
  ("readonly_type", seq ["readonly", ref "type"]),
  ("union_type", left (seq [opt (ref "type"), "|", ref "type"])),
  ("intersection_type", left (seq [opt (ref "type"), "&", ref "type"])),
  ("function_type", left (seq [
    typeParameters, field "parameters" (ref "formal_parameters"), "=>",
    field "return_type" (choice [ref "type", ref "asserts", ref "type_predicate"])])),
  ("_type_identifier", renamed "type_identifier" (ref "identifier")),
  ("_reserved_identifier", choice [
    "declare", "namespace", "type", "public", "private", "protected", "override", "readonly",
    "module", "any", "number", "boolean", "string", "symbol", "export", "object", "new",
    "readonly", base "_reserved_identifier"])]

def orders : List (List Rank) := [
  [.precedence "call", .precedence "instantiation", .precedence "unary",
    .precedence "binary", .rule "await_expression", .rule "arrow_function"],
  [.precedence "extends", .precedence "instantiation"],
  [.rule "intersection_type", .rule "union_type", .rule "conditional_type",
    .rule "function_type", .precedence "binary", .rule "type_predicate",
    .rule "readonly_type"],
  [.rule "mapped_type_clause", .rule "primary_expression"],
  [.rule "accessibility_modifier", .rule "primary_expression"],
  [.precedence "unary_void", .rule "expression"],
  [.rule "extends_clause", .rule "primary_expression"],
  [.precedence "unary", .precedence "assign"],
  [.precedence "declare", .rule "expression"],
  [.rule "predefined_type", .rule "unary_expression"],
  [.rule "type", .rule "flow_maybe_type"],
  [.rule "tuple_type", .rule "array_type", .rule "pattern", .rule "type"],
  [.rule "readonly_type", .rule "pattern"],
  [.rule "readonly_type", .rule "primary_expression"],
  [.rule "type_query", .rule "subscript_expression", .rule "expression"],
  [.rule "type_query", .rule "_type_query_subscript_expression"],
  [.rule "nested_type_identifier", .rule "generic_type", .rule "primary_type",
    .rule "lookup_type", .rule "index_type_query", .rule "type"],
  [.rule "as_expression", .rule "satisfies_expression", .rule "primary_type"],
  [.rule "_type_query_member_expression", .rule "member_expression"],
  [.rule "member_expression", .rule "_type_query_member_expression_in_type_annotation"],
  [.rule "_type_query_member_expression", .rule "primary_expression"],
  [.rule "_type_query_subscript_expression", .rule "subscript_expression"],
  [.rule "_type_query_subscript_expression", .rule "primary_expression"],
  [.rule "_type_query_call_expression", .rule "primary_expression"],
  [.rule "_type_query_instantiation_expression", .rule "primary_expression"],
  [.rule "type_query", .rule "primary_expression"],
  [.rule "override_modifier", .rule "primary_expression"],
  [.rule "decorator_call_expression", .rule "decorator"],
  [.rule "literal_type", .rule "pattern"],
  [.rule "predefined_type", .rule "pattern"],
  [.rule "call_expression", .rule "_type_query_call_expression"],
  [.rule "call_expression", .rule "_type_query_call_expression_in_type_annotation"],
  [.rule "new_expression", .rule "primary_expression"],
  [.rule "meta_property", .rule "primary_expression"],
  [.rule "construct_signature", .rule "_property_name"]]

def grammar (markup : Bool) : Grammar :=
  let plain := JavaScriptGrammar.grammar
  let changes := statements ++ declarations ++ annotations ++ types
  { plain with
    rules := extend plain.rules
      (("expression", expressionRule markup) :: changes)
    externals := plain.externals ++
      [.rule "_function_signature_automatic_semicolon", .rule "__error_recovery"]
    inlined := plain.inlined.filter (fun name =>
        name != "_formal_parameter" && name != "_call_signature") ++
      ["_type_identifier", "_jsx_start_opening_element"]
    supertypes := plain.supertypes ++ ["type", "primary_type"]
    orders := plain.orders ++ orders }

end SourceIndex.TypeScriptGrammar
