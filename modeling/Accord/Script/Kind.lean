/-!
# `Accord.Script.Kind`: the kinds of nodes in a syntax tree

A `Kind` names what a node of a syntax tree is. Punctuation and words of the grammar are of the
kind `token`; all other kinds are the named ones. A `Role` says what a node is for its parent.
-/

set_option autoImplicit false

namespace Accord.Script

/-- What a node of a syntax tree is. -/
inductive Kind where
  -- Units and what stands between tokens
  | program
  | comment
  | hashBangLine
  | token
  -- Names and literals
  | identifier
  | propertyIdentifier
  | privatePropertyIdentifier
  | shorthandPropertyIdentifier
  | shorthandPropertyIdentifierPattern
  | statementIdentifier
  | typeIdentifier
  | nestedIdentifier
  | nestedTypeIdentifier
  | string
  | stringFragment
  | escapeSequence
  | templateString
  | templateSubstitution
  | number
  | regex
  | trueLiteral
  | falseLiteral
  | nullLiteral
  | undefinedLiteral
  | this
  | superclass
  | importWord
  -- Statements
  | exportStatement
  | exportClause
  | exportSpecifier
  | namespaceExport
  | importStatement
  | importClause
  | importSpecifier
  | namedImports
  | namespaceImport
  | importAttribute
  | importRequireClause
  | importAlias
  | debuggerStatement
  | expressionStatement
  | statementBlock
  | ifStatement
  | elseClause
  | switchStatement
  | switchBody
  | switchCase
  | switchDefault
  | forStatement
  | forInStatement
  | whileStatement
  | doStatement
  | tryStatement
  | catchClause
  | finallyClause
  | withStatement
  | breakStatement
  | continueStatement
  | returnStatement
  | throwStatement
  | emptyStatement
  | labeledStatement
  -- Declarations
  | lexicalDeclaration
  | variableDeclaration
  | variableDeclarator
  | functionDeclaration
  | generatorFunctionDeclaration
  | functionSignature
  | classDeclaration
  | abstractClassDeclaration
  | classHeritage
  | extendsClause
  | implementsClause
  | classBody
  | classStaticBlock
  | methodDefinition
  | methodSignature
  | abstractMethodSignature
  | publicFieldDefinition
  | decorator
  | accessibilityModifier
  | overrideModifier
  | computedPropertyName
  | moduleDeclaration
  | internalModule
  | ambientDeclaration
  | typeAliasDeclaration
  | interfaceDeclaration
  | interfaceBody
  | extendsTypeClause
  | enumDeclaration
  | enumBody
  | enumAssignment
  -- Expressions
  | parenthesizedExpression
  | sequenceExpression
  | assignmentExpression
  | augmentedAssignmentExpression
  | awaitExpression
  | unaryExpression
  | binaryExpression
  | ternaryExpression
  | updateExpression
  | newExpression
  | yieldExpression
  | arrowFunction
  | functionExpression
  | generatorFunction
  | classExpression
  | object
  | pair
  | spreadElement
  | array
  | memberExpression
  | subscriptExpression
  | optionalChain
  | callExpression
  | arguments
  | metaProperty
  | asExpression
  | satisfiesExpression
  | nonNullExpression
  | typeAssertion
  | instantiationExpression
  -- Patterns and parameters
  | objectPattern
  | arrayPattern
  | assignmentPattern
  | objectAssignmentPattern
  | pairPattern
  | restPattern
  | formalParameters
  | requiredParameter
  | optionalParameter
  -- Types
  | typeAscription
  | omittingTypeAscription
  | addingTypeAscription
  | optingTypeAscription
  | assertsAscription
  | typePredicateAscription
  | asserts
  | typePredicate
  | typeArguments
  | typeParameters
  | typeParameter
  | constraint
  | defaultType
  | parenthesizedType
  | predefinedType
  | genericType
  | objectType
  | arrayType
  | tupleType
  | optionalType
  | restType
  | flowMaybeType
  | typeQuery
  | indexTypeQuery
  | thisType
  | existentialType
  | literalType
  | lookupType
  | conditionalType
  | templateLiteralType
  | templateType
  | intersectionType
  | unionType
  | functionType
  | readonlyType
  | constructorType
  | inferType
  | propertySignature
  | callSignature
  | constructSignature
  | indexSignature
  | mappedTypeClause
  -- Markup inside expressions
  | markupElement
  | markupSelfClosing
  | markupOpening
  | markupClosing
  | markupText
  | markupCharacter
  | markupExpression
  | markupAttribute
  | markupNamespaceName
  deriving DecidableEq, Repr

/-- What a node is for its parent. -/
inductive Role where
  | arguments
  | body
  | declaration
  | function
  | key
  | left
  | name
  | operator
  | parameters
  | pattern
  | returnType
  | right
  | type
  | value
  deriving DecidableEq, Repr

end Accord.Script
