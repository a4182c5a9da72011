import FlowLint.Source

/-!
# Concrete syntax of a script

What reading a script yields: a tree of grammar nodes. Every node has a kind, the role it plays
in its parent, the span of text it covers and, for tokens, that text. Comments and punctuation
leave no node; an operator or a declaration keyword that matters is a child of kind `token`.
-/

namespace FlowLint.Script

/-- The constructs of the grammar. Those that nothing else is said about are of the kind `other`,
with a name. -/
inductive Kind where
  | program | expressionStatement | variableDeclaration | lexicalDeclaration | usingDeclaration
  | variableDeclarator | statementBlock | emptyStatement | ifStatement | elseClause
  | switchStatement | switchBody | switchCase | switchDefault | forStatement | forInStatement
  | whileStatement | doStatement | tryStatement | catchClause | finallyClause | withStatement
  | breakStatement | continueStatement | debuggerStatement | returnStatement | throwStatement
  | labeledStatement | functionDeclaration | generatorFunctionDeclaration | classDeclaration
  | importStatement | importClause | namedImports | importSpecifier | namespaceImport
  | exportStatement | exportClause | exportSpecifier | namespaceExport
  | identifier | undefined | this | super | importKeyword | trueLiteral | falseLiteral
  | nullLiteral | number | string | regex | templateString | stringFragment | escapeSequence
  | templateSubstitution | array | object | pair | shorthandProperty | methodDefinition
  | spreadElement | computedPropertyName | parenthesized | sequence | assignment
  | augmentedAssignment | binary | unary | update | ternary | await | yield | new | call | member
  | subscript | arrowFunction | functionExpression | generatorFunction | classExpression
  | metaProperty | jsxElement | jsxOpeningElement | jsxClosingElement | jsxSelfClosingElement
  | jsxAttribute | jsxExpression | jsxText | jsxNamespaceName | characterReference
  | fieldDefinition | classStaticBlock | propertyIdentifier | privatePropertyIdentifier
  | statementIdentifier | objectPattern | arrayPattern | restPattern | pairPattern
  | shorthandPropertyPattern | objectAssignmentPattern | assignmentPattern | token
  | other (name : String)
  deriving Repr, DecidableEq, Inhabited

/-- The name that diagnostics and tree listings use for a kind. -/
def Kind.name : Kind → String
  | program => "program"
  | expressionStatement => "expression_statement"
  | variableDeclaration => "variable_declaration"
  | lexicalDeclaration => "lexical_declaration"
  | usingDeclaration => "using_declaration"
  | variableDeclarator => "variable_declarator"
  | statementBlock => "statement_block"
  | emptyStatement => "empty_statement"
  | ifStatement => "if_statement"
  | elseClause => "else_clause"
  | switchStatement => "switch_statement"
  | switchBody => "switch_body"
  | switchCase => "switch_case"
  | switchDefault => "switch_default"
  | forStatement => "for_statement"
  | forInStatement => "for_in_statement"
  | whileStatement => "while_statement"
  | doStatement => "do_statement"
  | tryStatement => "try_statement"
  | catchClause => "catch_clause"
  | finallyClause => "finally_clause"
  | withStatement => "with_statement"
  | breakStatement => "break_statement"
  | continueStatement => "continue_statement"
  | debuggerStatement => "debugger_statement"
  | returnStatement => "return_statement"
  | throwStatement => "throw_statement"
  | labeledStatement => "labeled_statement"
  | functionDeclaration => "function_declaration"
  | generatorFunctionDeclaration => "generator_function_declaration"
  | classDeclaration => "class_declaration"
  | importStatement => "import_statement"
  | importClause => "import_clause"
  | namedImports => "named_imports"
  | importSpecifier => "import_specifier"
  | namespaceImport => "namespace_import"
  | exportStatement => "export_statement"
  | exportClause => "export_clause"
  | exportSpecifier => "export_specifier"
  | namespaceExport => "namespace_export"
  | identifier => "identifier"
  | undefined => "undefined"
  | this => "this"
  | super => "super"
  | importKeyword => "import"
  | trueLiteral => "true"
  | falseLiteral => "false"
  | nullLiteral => "null"
  | number => "number"
  | string => "string"
  | regex => "regex"
  | templateString => "template_string"
  | stringFragment => "string_fragment"
  | escapeSequence => "escape_sequence"
  | templateSubstitution => "template_substitution"
  | array => "array"
  | object => "object"
  | pair => "pair"
  | shorthandProperty => "shorthand_property_identifier"
  | methodDefinition => "method_definition"
  | spreadElement => "spread_element"
  | computedPropertyName => "computed_property_name"
  | parenthesized => "parenthesized_expression"
  | sequence => "sequence_expression"
  | assignment => "assignment_expression"
  | augmentedAssignment => "augmented_assignment_expression"
  | binary => "binary_expression"
  | unary => "unary_expression"
  | update => "update_expression"
  | ternary => "ternary_expression"
  | await => "await_expression"
  | yield => "yield_expression"
  | new => "new_expression"
  | call => "call_expression"
  | member => "member_expression"
  | subscript => "subscript_expression"
  | arrowFunction => "arrow_function"
  | functionExpression => "function_expression"
  | generatorFunction => "generator_function"
  | classExpression => "class"
  | metaProperty => "meta_property"
  | jsxElement => "jsx_element"
  | jsxOpeningElement => "jsx_opening_element"
  | jsxClosingElement => "jsx_closing_element"
  | jsxSelfClosingElement => "jsx_self_closing_element"
  | jsxAttribute => "jsx_attribute"
  | jsxExpression => "jsx_expression"
  | jsxText => "jsx_text"
  | jsxNamespaceName => "jsx_namespace_name"
  | characterReference => "html_character_reference"
  | fieldDefinition => "field_definition"
  | classStaticBlock => "class_static_block"
  | propertyIdentifier => "property_identifier"
  | privatePropertyIdentifier => "private_property_identifier"
  | statementIdentifier => "statement_identifier"
  | objectPattern => "object_pattern"
  | arrayPattern => "array_pattern"
  | restPattern => "rest_pattern"
  | pairPattern => "pair_pattern"
  | shorthandPropertyPattern => "shorthand_property_identifier_pattern"
  | objectAssignmentPattern => "object_assignment_pattern"
  | assignmentPattern => "assignment_pattern"
  | token => ""
  | other name => name

/-- The role of a node in its parent. -/
inductive Role where
  | part | name | value | body | parameter | left | right | operator | kind | function | argument
  | object | property | index | key | heritage | member
  deriving Repr, DecidableEq, Inhabited

/-- A grammar node. -/
inductive Concrete where
  | node (kind : Kind) (role : Role) (span : Span) (text : String) (children : List Concrete)
  deriving Inhabited

namespace Concrete

def kind : Concrete → Kind
  | node k _ _ _ _ => k

def role : Concrete → Role
  | node _ r _ _ _ => r

def span : Concrete → Span
  | node _ _ s _ _ => s

def text : Concrete → String
  | node _ _ _ t _ => t

def children : Concrete → List Concrete
  | node _ _ _ _ cs => cs

/-- The same node in another role. -/
def withRole (r : Role) : Concrete → Concrete
  | node k _ s t cs => node k r s t cs

mutual

/-- Whether two grammar nodes are the same can be decided. -/
def decEq : (a b : Concrete) → Decidable (a = b)
  | node k r s t cs, node k' r' s' t' cs' =>
    have := decEqAll cs cs'
    decidable_of_iff (k = k' ∧ r = r' ∧ s = s' ∧ t = t' ∧ cs = cs') (by simp)

/-- `decEq` for lists of grammar nodes. -/
def decEqAll : (as bs : List Concrete) → Decidable (as = bs)
  | [], [] => isTrue rfl
  | [], _ :: _ | _ :: _, [] => isFalse nofun
  | a :: as, b :: bs =>
    have := decEq a b
    have := decEqAll as bs
    decidable_of_iff (a = b ∧ as = bs) (by simp)

end

instance : DecidableEq Concrete := decEq

end Concrete

end FlowLint.Script
