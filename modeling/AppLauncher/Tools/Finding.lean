import AppLauncher.Shell.Matching
import AppLauncher.Tools.Files

/-!
# Finding files

The paths below some paths are visited in the order of the directories, and an
expression decides what is done with each.
-/

namespace AppLauncher.Tools.Finding

open Shell

inductive Expression where
  | constant (value : Bool)
  | named (pattern : Pattern) (ignoresCase : Bool)
  | located (pattern : Pattern)
  | ofType (letter : Char)
  | isEmpty
  | canRun
  | print (byNul : Bool)
  | delete
  | prune
  | call (words : List Text)
  | callOnce (words : List Text)
  | negation (inner : Expression)
  | both (first second : Expression)
  | either (first second : Expression)

inductive Deed where
  | print (text : Text)
  | delete (path : Text)
  | call (words : List Text)
  | callOnce (words : List Text) (path : Text)

structure Depths where
  least : Nat := 0
  most : Option Nat := none
  insideFirst : Bool := false

def callWords : List Text → Option (List Text × Bool × List Text)
  | [] => none
  | [';'] :: rest => some ([], false, rest)
  | ['\x7b', '\x7d'] :: ['+'] :: rest => some ([], true, rest)
  | word :: rest => (callWords rest).map fun (words, once, rest) => (word :: words, once, rest)

def patternOf (text : Text) : Pattern :=
  Pattern.ofLetters (Text.letters false text)

mutual

def readEither : (fuel : Nat) → List Text → Option (Expression × List Text)
  | 0, _ => none
  | fuel + 1, words =>
    match readBoth fuel words with
    | some (first, ['-', 'o'] :: rest) =>
      (readEither fuel rest).map fun (second, rest) => (.either first second, rest)
    | result => result

def readBoth : (fuel : Nat) → List Text → Option (Expression × List Text)
  | 0, _ => none
  | fuel + 1, words =>
    match readPrimary fuel words with
    | none => none
    | some (first, rest) =>
      match rest with
      | [] => some (first, [])
      | ['-', 'o'] :: _ => some (first, rest)
      | [')'] :: _ => some (first, rest)
      | ['-', 'a'] :: rest =>
        (readBoth fuel rest).map fun (second, rest) => (.both first second, rest)
      | rest => (readBoth fuel rest).map fun (second, rest) => (.both first second, rest)

def readPrimary : (fuel : Nat) → List Text → Option (Expression × List Text)
  | 0, _ => none
  | fuel + 1, words =>
    match words with
    | [] => none
    | word :: rest =>
      match String.ofList word, rest with
      | "(", rest =>
        match readEither fuel rest with
        | some (inner, [')'] :: rest) => some (inner, rest)
        | _ => none
      | "!", rest | "-not", rest =>
        (readPrimary fuel rest).map fun (inner, rest) => (.negation inner, rest)
      | "-name", text :: rest => some (.named (patternOf text) false, rest)
      | "-iname", text :: rest => some (.named (patternOf (text.map Char.toLower)) true, rest)
      | "-path", text :: rest | "-wholename", text :: rest =>
        some (.located (patternOf text), rest)
      | "-type", [letter] :: rest => some (.ofType letter, rest)
      | "-empty", rest => some (.isEmpty, rest)
      | "-executable", rest => some (.canRun, rest)
      | "-true", rest => some (.constant true, rest)
      | "-false", rest => some (.constant false, rest)
      | "-print", rest => some (.print false, rest)
      | "-print0", rest => some (.print true, rest)
      | "-delete", rest => some (.delete, rest)
      | "-prune", rest => some (.prune, rest)
      | "-exec", rest =>
        (callWords rest).bind fun (words, once, rest) =>
          if words = [] then none
          else some (if once then .callOnce words else .call words, rest)
      | _, _ => none

end

def readDepths : List Text → Depths × List Text
  | [] => ({}, [])
  | word :: rest =>
    match String.ofList word, rest with
    | "-maxdepth", count :: rest =>
      let (depths, words) := readDepths rest
      ({ depths with most := some (Word.number count) }, words)
    | "-mindepth", count :: rest =>
      let (depths, words) := readDepths rest
      ({ depths with least := Word.number count }, words)
    | "-depth", rest =>
      let (depths, words) := readDepths rest
      ({ depths with insideFirst := true }, words)
    | _, rest =>
      let (depths, words) := readDepths rest
      (depths, word :: words)

def Expression.acts : Expression → Bool
  | .print _ | .delete | .call _ | .callOnce _ => true
  | .negation inner => inner.acts
  | .both first second => first.acts || second.acts
  | .either first second => first.acts || second.acts
  | _ => false

def Expression.removes : Expression → Bool
  | .delete => true
  | .negation inner => inner.removes
  | .both first second => first.removes || second.removes
  | .either first second => first.removes || second.removes
  | _ => false

def filledIn (path : Text) : Text → Text
  | '\x7b' :: '\x7d' :: rest => path ++ filledIn path rest
  | c :: rest => c :: filledIn path rest
  | [] => []

def typeOf : Node → Char
  | .directory _ => 'd'
  | .link _ => 'l'
  | .file .void _ => 'c'
  | .file _ _ => 'f'

/-- What an expression says about a path: whether it holds, what is done, and
whether what is below the path is passed over. -/
def Expression.judge (path : Text) (node : Node) : Expression → Bool × List Deed × Bool
  | .constant value => (value, [], false)
  | .named pattern ignoresCase =>
    let name := baseName path []
    (pattern.accepts (if ignoresCase then name.map Char.toLower else name), [], false)
  | .located pattern => (pattern.accepts path, [], false)
  | .ofType letter => (typeOf node == letter, [], false)
  | .isEmpty =>
    (match node with
      | .directory entries => entries.isEmpty
      | .file body _ => body.content == []
      | .link _ => false, [], false)
  | .canRun =>
    (match node with
      | .directory _ => true
      | .file _ executable => executable
      | .link _ => false, [], false)
  | .print byNul => (true, [.print (path ++ [if byNul then '\x00' else '\n'])], false)
  | .delete => (true, [.delete path], false)
  | .prune => (true, [], true)
  | .call words => (true, [.call (words.map (filledIn path))], false)
  | .callOnce words => (true, [.callOnce words path], false)
  | .negation inner =>
    let (value, deeds, pruned) := inner.judge path node
    (!value, deeds, pruned)
  | .both first second =>
    let (value, deeds, pruned) := first.judge path node
    if value then
      let (value, more, alsoPruned) := second.judge path node
      (value, deeds ++ more, pruned || alsoPruned)
    else
      (false, deeds, pruned)
  | .either first second =>
    let (value, deeds, pruned) := first.judge path node
    if value then
      (true, deeds, pruned)
    else
      let (value, more, alsoPruned) := second.judge path node
      (value, deeds ++ more, pruned || alsoPruned)

def visit (expression : Expression) (depths : Depths) : (fuel : Nat) → (depth : Nat) →
    (path : Text) → Node → List Deed
  | 0, _, _, _ => []
  | fuel + 1, depth, path, node =>
    let (_, deeds, pruned) :=
      if depth < depths.least then (false, [], false) else expression.judge path node
    let inside :=
      if (pruned && !depths.insideFirst) || depths.most.any (· ≤ depth) then []
      else
        let slash : Text := if path.getLast? = some '/' then [] else ['/']
        node.entries.flatMap fun (name, child) =>
          visit expression depths fuel (depth + 1) (path ++ slash ++ Text.ofBytes name) child
    if depths.insideFirst then inside ++ deeds else deeds ++ inside

structure Request where
  starts : List Text
  expression : Expression
  depths : Depths

def readRequest? (operands : List Text) : Option Request :=
  let isStart (word : Text) : Bool :=
    word.head? != some '-' && word != ['('] && word != ['!']
  let starts := operands.takeWhile isStart
  let (depths, words) := readDepths (operands.drop starts.length)
  let starts := if starts = [] then [['.']] else starts
  match
    if words = [] then some (.constant true, []) else readEither (8 * words.length + 8) words with
  | some (expression, []) =>
    let insideFirst := depths.insideFirst || expression.removes
    some
      { starts
        expression :=
          if expression.acts then expression else .both expression (.print false)
        depths := { depths with insideFirst } }
  | _ => none

def Request.deeds? (request : Request) (host : Host) (start : Text) : Option (List Deed) :=
  match host.locate false start.toBytes with
  | .ok (.taken _ node) => some (visit request.expression request.depths treeDepth 0 start node)
  | _ => none

end AppLauncher.Tools.Finding
