import BankSwitch.Proofs.Printing.Digits
import BankSwitch.Proofs.Printing.Pieces
import BankSwitch.Smt.Script

/-!
# Reading scripts

From the text of a script to its s-expressions, as SMT-LIB spells them: white space separates, a
comment runs from a semicolon to the end of the line, an atom is a simple symbol or a numeral.
Strings, quoted symbols and literals with a mark are not read.  The text that a script is printed as
reads as its commands (`Script.read_text`).
-/

namespace BankSwitch.Smt

/-! ## pieces of a text -/

inductive Piece where
  | opening
  | closing
  | atom (name : String)
  deriving DecidableEq

def isBlank (c : Char) : Bool := c = ' ' || c = '\t' || c = '\n' || c = '\r'

def isLineBreak (c : Char) : Bool := c = '\n' || c = '\r'

/-- a character that atoms may have -/
def isAtomChar (c : Char) : Bool := c.isAlphanum || "~!@$%^&*_-+=<>.?/".toList.contains c

/-- digits without a leading zero -/
def isNumeral (word : List Char) : Bool :=
  word.all Char.isDigit && match word with
    | [] => false
    | c :: r => c ≠ '0' || r.isEmpty

def isSimpleSymbol (word : List Char) : Bool :=
  word.all isAtomChar && match word with
    | [] => false
    | c :: _ => !c.isDigit

def isAtom (word : List Char) : Bool := isNumeral word || isSimpleSymbol word

/-- where a scan stands: behind some characters of an atom, last one first, or in a comment -/
inductive Mode where
  | word (spelled : List Char)
  | comment

/-- the atom that has been spelled so far, in front of what follows -/
def flush (spelled : List Char) (more : Option (List Piece)) : Option (List Piece) :=
  if spelled = [] then more
  else if isAtom spelled.reverse then
    more.map (.atom (String.ofList spelled.reverse) :: ·)
  else none

def scan : Mode → List Char → Option (List Piece)
  | .comment, [] => some []
  | .comment, c :: r => if isLineBreak c then scan (.word []) r else scan .comment r
  | .word spelled, [] => flush spelled (some [])
  | .word spelled, c :: r =>
    if isAtomChar c then scan (.word (c :: spelled)) r
    else if isBlank c then flush spelled (scan (.word []) r)
    else if c = ';' then flush spelled (scan .comment r)
    else if c = '(' then flush spelled ((scan (.word []) r).map (.opening :: ·))
    else if c = ')' then flush spelled ((scan (.word []) r).map (.closing :: ·))
    else none

/-- the s-expressions that pieces make up, inside of lists that are still open; `outer` and `done`
hold what has been read, last first -/
def build (outer : List (List Sexp)) (done : List Sexp) : List Piece → Option (List Sexp)
  | [] => if outer.isEmpty then some done.reverse else none
  | .opening :: ps => build (done :: outer) [] ps
  | .closing :: ps =>
    match outer with
    | [] => none
    | d :: outer => build outer (.list done.reverse :: d) ps
  | .atom name :: ps => build outer (.atom name :: done) ps

/-- the s-expressions of a text -/
def read (text : String) : Option (List Sexp) := (scan (.word []) text.toList).bind (build [] [])

/-! ## what pieces a text has -/

/-- the text has these pieces -/
def HasPieces (s : List Char) (ps : List Piece) : Prop := scan (.word []) s = some ps

/-- no atom goes on with the character -/
def endsAtom (c : Char) : Bool := !isAtomChar c

abbrev Writes (follow : Char → Bool) (t : String) (ps : List Piece) : Prop :=
  Adds HasPieces follow t ps

theorem scan_atomChars {cs : List Char} (h : ∀ c ∈ cs, isAtomChar c = true)
    (spelled s : List Char) :
    scan (.word spelled) (cs ++ s) = scan (.word (cs.reverse ++ spelled)) s := by
  induction cs generalizing spelled with
  | nil => rfl
  | cons c cs ih =>
    rw [List.cons_append, scan, if_pos (h c List.mem_cons_self),
      ih (fun d hd => h d (List.mem_cons_of_mem c hd)), List.reverse_cons, List.append_assoc]
    rfl

/-- the end of an atom -/
theorem scan_flush {s : List Char} (h : ∀ c ∈ s.head?, endsAtom c = true) (spelled : List Char) :
    scan (.word spelled) s = flush spelled (scan (.word []) s) := by
  cases s with
  | nil => rfl
  | cons c r =>
    have hc : ¬ isAtomChar c = true := by
      have := h c rfl
      rw [endsAtom, Bool.not_eq_true'] at this
      rw [this]
      decide
    have unstarted (more : Option (List Piece)) : flush [] more = more := if_pos rfl
    have none_flush : flush spelled none = none := by
      unfold flush
      split
      · rfl
      · split <;> rfl
    simp only [scan, if_neg hc, unstarted]
    split
    · rfl
    split
    · rfl
    split
    · rfl
    split
    · rfl
    · exact none_flush.symm

theorem isAtomChar_of_isDigit {c : Char} (h : c.isDigit = true) : isAtomChar c = true := by
  unfold isAtomChar Char.isAlphanum
  rw [h, Bool.or_true, Bool.true_or]

theorem isAtomChar_of_isAtom {name : List Char} (h : isAtom name = true) :
    ∀ c ∈ name, isAtomChar c = true := by
  intro c hc
  unfold isAtom isNumeral isSimpleSymbol at h
  simp only [Bool.or_eq_true, Bool.and_eq_true, List.all_eq_true] at h
  obtain ⟨h, -⟩ | ⟨h, -⟩ := h
  · exact isAtomChar_of_isDigit (h c hc)
  · exact h c hc

theorem writes_atom {name : String} (h : isAtom name.toList = true) :
    Writes endsAtom name [.atom name] := by
  intro s ps hs hp
  unfold HasPieces at hp ⊢
  rw [scan_atomChars (isAtomChar_of_isAtom h), scan_flush hs, hp, List.append_nil]
  have hne : name.toList.reverse ≠ [] := by
    intro he
    rw [List.reverse_eq_nil_iff.mp he] at h
    cases h
  unfold flush
  rw [if_neg hne, List.reverse_reverse, if_pos h, String.ofList_toList]
  rfl

theorem writes_opening : Writes anyChar "(" [.opening] := by
  intro s ps _ hp
  have e : scan (.word []) ('(' :: s) = (scan (.word []) s).map (.opening :: ·) := rfl
  unfold HasPieces at hp ⊢
  exact e.trans (by rw [hp]; rfl)

theorem writes_closing : Writes anyChar ")" [.closing] := by
  intro s ps _ hp
  have e : scan (.word []) (')' :: s) = (scan (.word []) s).map (.closing :: ·) := rfl
  unfold HasPieces at hp ⊢
  exact e.trans (by rw [hp]; rfl)

theorem writes_space : Writes anyChar " " [] := fun _ _ _ hp => hp

theorem writes_lineFeed : Writes anyChar "\n" [] := fun _ _ _ hp => hp

theorem ends_closing : Begins endsAtom ")" := ⟨')', [], rfl, rfl⟩

theorem ends_space : Begins endsAtom " " := ⟨' ', [], rfl, rfl⟩

theorem ends_lineFeed : Begins endsAtom "\n" := ⟨'\n', [], rfl, rfl⟩

/-- a comment with the end of its line -/
theorem writes_comment {text : String} (h : text.toList.all (!isLineBreak ·) = true) :
    Writes anyChar ("; " ++ text ++ "\n") [] := by
  intro s ps _ hp
  have skip (cs : List Char) (hcs : cs.all (!isLineBreak ·) = true) :
      scan .comment (cs ++ '\n' :: s) = scan (.word []) s := by
    induction cs with
    | nil => rfl
    | cons c cs ih =>
      rw [List.all_cons, Bool.and_eq_true, Bool.not_eq_true'] at hcs
      rw [List.cons_append, scan, if_neg (by rw [hcs.1]; decide), ih hcs.2]
  have chars : ("; " ++ text ++ "\n").toList ++ s = ';' :: ' ' :: (text.toList ++ '\n' :: s) := by
    rw [String.toList_append, String.toList_append, List.append_assoc]
    rfl
  rw [chars]
  have e : scan (.word []) (';' :: ' ' :: (text.toList ++ '\n' :: s)) =
      scan .comment (text.toList ++ '\n' :: s) := rfl
  exact e.trans ((skip _ h).trans hp)

/-! ## numbers and names -/

theorem all_isDigit_toDigits (n : Nat) : (Nat.toDigits 10 n).all Char.isDigit = true :=
  List.all_eq_true.mpr fun _ hc => Nat.isDigit_of_mem_toDigits (by decide) (by decide) hc

theorem all_isAtomChar_toDigits (n : Nat) : (Nat.toDigits 10 n).all isAtomChar = true :=
  List.all_eq_true.mpr fun c hc =>
    isAtomChar_of_isDigit (List.all_eq_true.mp (all_isDigit_toDigits n) c hc)

theorem isNumeral_toDigits (n : Nat) : isNumeral (Nat.toDigits 10 n) = true := by
  unfold isNumeral
  rw [all_isDigit_toDigits, Bool.true_and]
  cases hd : Nat.toDigits 10 n with
  | nil => exact absurd hd Nat.toDigits_ne_nil
  | cons c r =>
    simp only [Bool.or_eq_true, decide_eq_true_eq, List.isEmpty_iff]
    by_cases hc : c = '0'
    · subst hc
      rw [eq_zero_of_toDigits (by decide) (by decide) hd, Nat.toDigits_zero] at hd
      exact .inr (List.cons.inj hd).2.symm
    · exact .inl hc

theorem isAtom_toString (n : Nat) : isAtom (toString n).toList = true := by
  unfold isAtom
  rw [Nat.toString_eq_repr, Nat.toList_repr, isNumeral_toDigits, Bool.true_or]

theorem isSimpleSymbol_append {name word : List Char} (h : isSimpleSymbol name = true)
    (hw : word.all isAtomChar = true) : isSimpleSymbol (name ++ word) = true := by
  unfold isSimpleSymbol at h ⊢
  rw [Bool.and_eq_true] at h
  cases name with
  | nil => cases h.2
  | cons c r =>
    rw [List.all_append, h.1, hw]
    exact h.2

theorem isAtom_of_isSimpleSymbol {name : List Char} (h : isSimpleSymbol name = true) :
    isAtom name = true := by
  unfold isAtom
  rw [h, Bool.or_true]

/-! ## s-expressions -/

namespace Sexp

mutual
def pieces : Sexp → List Piece
  | .atom name => [.atom name]
  | .list items => .opening :: (piecesOf items ++ [.closing])

def piecesOf : List Sexp → List Piece
  | [] => []
  | s :: ss => s.pieces ++ piecesOf ss
end

mutual
/-- every atom can be read -/
def Plain : Sexp → Prop
  | .atom name => isAtom name.toList = true
  | .list items => PlainAll items

def PlainAll : List Sexp → Prop
  | [] => True
  | s :: ss => s.Plain ∧ PlainAll ss
end

mutual
theorem writes_text : ∀ s : Sexp, s.Plain → Writes endsAtom s.text s.pieces
  | .atom name, h => by
    rw [text, pieces]
    exact writes_atom h
  | .list items, h => by
    rw [text, pieces]
    have inner := writes_texts items h
    exact (writes_opening.lead inner).append writes_closing.weaken ends_closing

theorem writes_texts : ∀ ss : List Sexp, PlainAll ss →
    Writes endsAtom (" ".intercalate (texts ss)) (piecesOf ss)
  | [], _ => by
    rw [texts, piecesOf, String.intercalate_nil]
    exact adds_empty
  | [s], h => by
    rw [texts, texts, piecesOf, piecesOf, String.intercalate_singleton, List.append_nil]
    exact writes_text s h.1
  | s :: s' :: ss, h => by
    have head := (writes_text s h.1).append writes_space ends_space
    have tail := writes_texts (s' :: ss) h.2
    rw [texts] at tail
    have whole := head.lead tail
    rw [List.append_nil] at whole
    rw [texts, texts, piecesOf, String.intercalate_cons_cons]
    exact whole
end

mutual
theorem build_pieces : ∀ (s : Sexp) (outer : List (List Sexp)) (done : List Sexp)
    (ps : List Piece), build outer done (s.pieces ++ ps) = build outer (s :: done) ps
  | .atom name, outer, done, ps => by
    rw [pieces, List.singleton_append, build]
  | .list items, outer, done, ps => by
    rw [pieces, List.cons_append, build, List.append_assoc, build_piecesOf, List.singleton_append,
      build, List.append_nil, List.reverse_reverse]

theorem build_piecesOf : ∀ (ss : List Sexp) (outer : List (List Sexp)) (done : List Sexp)
    (ps : List Piece), build outer done (piecesOf ss ++ ps) = build outer (ss.reverse ++ done) ps
  | [], outer, done, ps => rfl
  | s :: ss, outer, done, ps => by
    rw [piecesOf, List.append_assoc, build_pieces, build_piecesOf, List.reverse_cons,
      List.append_assoc]
    rfl
end

end Sexp

theorem read_of_hasPieces {text : String} {ss : List Sexp}
    (h : HasPieces text.toList (Sexp.piecesOf ss)) : read text = some ss := by
  have e := Sexp.build_piecesOf ss [] [] []
  rw [List.append_nil, List.append_nil] at e
  unfold read
  rw [h, Option.bind_some, e, build, List.reverse_reverse]
  rfl

/-! ## scripts -/

namespace Command

/-- the parameters of a function of `addr` -/
def parameters (width : Nat) : Sexp := .list [.list [.atom addrName, vectorSort width]]

/-- a definition as one s-expression -/
def definition (name : String) (width : Nat) (result body : Sexp) : Sexp :=
  .list [.atom "define-fun", .atom name, parameters width, result, body]

/-- what a reader finds of a command -/
def sexps : Command → List Sexp
  | .comment _ => []
  | .blank => []
  | .declare name width => [.list [.atom "declare-const", .atom name, vectorSort width]]
  | .defineFormula name width body => [definition name width (.atom "Bool") body.sexp]
  | .defineTerm name width body => [definition name width (vectorSort width) body.sexp]

/-- comments stay in their lines, and the rest can be read -/
def Plain : Command → Prop
  | .comment text => text.toList.all (!isLineBreak ·) = true
  | .blank => True
  | .declare name _ => isAtom name.toList = true
  | .defineFormula name _ body => isAtom name.toList = true ∧ body.sexp.Plain
  | .defineTerm name _ body => isAtom name.toList = true ∧ body.sexp.Plain

end Command

theorem plain_vectorSort (width : Nat) : (vectorSort width).Plain :=
  ⟨rfl, rfl, isAtom_toString width, trivial⟩

theorem writes_definition {name : String} {width : Nat} {result body : Sexp}
    (hn : isAtom name.toList = true) (hr : result.Plain) (hb : body.Plain) :
    Writes anyChar (joined ((functionLines name width result body).map (· ++ "\n")))
      (Command.definition name width result body).pieces := by
  have parameters : (Command.parameters width).Plain :=
    ⟨⟨rfl, plain_vectorSort width, trivial⟩, trivial⟩
  have opening : Writes anyChar "(define-fun " [.opening, .atom "define-fun"] := by
    have text : "(define-fun " = "(" ++ ("define-fun" ++ " ") := rfl
    rw [text]
    have word : Writes endsAtom "define-fun" [.atom "define-fun"] := writes_atom rfl
    exact writes_opening.lead (word.append writes_space ends_space)
  have first := (opening.lead (writes_atom hn)).append writes_space ends_space
  have second := (first.lead (Sexp.writes_text _ parameters)).append writes_space ends_space
  have line := (second.lead (Sexp.writes_text _ hr)).append writes_lineFeed ends_lineFeed
  have indent : Writes anyChar "  " [] := fun _ _ _ hp => hp
  have last := (indent.lead (Sexp.writes_text _ hb)).append writes_closing ends_closing
  have ending : Writes anyChar "" [] := adds_empty
  have whole := line.lead ((last.lead writes_lineFeed).lead ending)
  simp only [List.append_nil, List.nil_append, List.append_assoc] at whole
  simp only [Command.definition, Sexp.pieces, Sexp.piecesOf, List.append_nil, List.append_assoc]
  exact whole

theorem joined_append (a b : List String) : joined (a ++ b) = joined a ++ joined b := by
  induction a with
  | nil => exact (String.empty_append).symm
  | cons t a ih => exact (congrArg (t ++ ·) ih).trans (String.append_assoc).symm

/-- a command in lines of its own -/
theorem Command.writes_lines {c : Command} (h : c.Plain) :
    Writes anyChar (joined (c.lines.map (· ++ "\n"))) (Sexp.piecesOf c.sexps) := by
  cases c with
  | comment text => exact (writes_comment h).lead adds_empty
  | blank => exact (adds_empty.lead writes_lineFeed).lead adds_empty
  | declare name width =>
    have plain : (Sexp.list [.atom "declare-const", .atom name, vectorSort width]).Plain :=
      ⟨rfl, h, plain_vectorSort width, trivial⟩
    have line := (Sexp.writes_text _ plain).append writes_lineFeed ends_lineFeed
    exact line.lead adds_empty
  | defineFormula name width body =>
    rw [sexps, Sexp.piecesOf, Sexp.piecesOf, List.append_nil]
    exact writes_definition h.1 rfl h.2
  | defineTerm name width body =>
    rw [sexps, Sexp.piecesOf, Sexp.piecesOf, List.append_nil]
    exact writes_definition h.1 (plain_vectorSort width) h.2

theorem Sexp.piecesOf_append (a b : List Sexp) :
    piecesOf (a ++ b) = piecesOf a ++ piecesOf b := by
  induction a with
  | nil => rfl
  | cons s a ih => rw [List.cons_append, piecesOf, ih, piecesOf, List.append_assoc]

theorem writes_commands {s : Script} (h : ∀ c ∈ s, c.Plain) :
    Writes anyChar (joined ((s.flatMap Command.lines).map (· ++ "\n")))
      (Sexp.piecesOf (s.flatMap Command.sexps)) := by
  induction s with
  | nil => exact adds_empty
  | cons c s ih =>
    rw [List.flatMap_cons, List.flatMap_cons, List.map_append, joined_append,
      Sexp.piecesOf_append]
    exact (Command.writes_lines (h c List.mem_cons_self)).lead
      (ih fun d hd => h d (List.mem_cons_of_mem c hd))

/-- a script that ends in an empty line reads as its commands -/
theorem Script.read_text {s : Script} (h : ∀ c ∈ s, c.Plain) :
    read (Script.text (s ++ [.blank])) = some (s.flatMap Command.sexps) := by
  have lines : (s ++ [Command.blank]).flatMap Command.lines = s.flatMap Command.lines ++ [""] :=
    List.flatMap_append
  have pieces := writes_commands h [] [] admits_empty rfl
  rw [List.append_nil, List.append_nil] at pieces
  apply read_of_hasPieces
  unfold Script.text
  rw [lines, intercalate_before, String.append_empty]
  exact pieces

end BankSwitch.Smt
