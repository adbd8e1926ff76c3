import SdlWorkbench.Proofs.Document.Offences
/-!
Checking while writing.

An `Emitter` appends to an output and can stop.  `Emitter.schema` makes the canonical text in one pass
over the declarations as they stand, with their ids: it checks each description and each directive right
before it writes it, and stops at the first that fails.  `Emits` says of such a program what it leaves
behind any output, and every part of the pass either emits the rendered part, in which no id shows, or
stops with the fault of that part.  So the pass has the result of `Schema.print`, which looks for a fault
before anything is written.
-/

namespace SdlWorkbench

/-- A program that appends to an output or stops. -/
abbrev Emitter := StateT Text (Except PrintError) Unit

namespace Emitter

def write (text : Text) : Emitter :=
  modify fun output => output ++ text

def stopAt : Option PrintError → Emitter
  | none => pure ()
  | some error => throw error

-- Not an `if` inside the sequence: that one carries all that follows into both of its branches.
def onlyIf (condition : Prop) [Decidable condition] (emitter : Emitter) : Emitter :=
  if condition then emitter else pure ()

def blockLine (indent line : Text) : Emitter := do
  onlyIf (line ≠ []) do
    write indent
    write line
  write ['\n']

def checkedDescription (indent text : Text) : Emitter := do
  write indent
  if '\n' ∈ text then
    write "\"\"\"\n".toList
    text.lines.forM (blockLine indent)
    write indent
    write "\"\"\"\n".toList
  else if '"' ∈ text ∨ '\\' ∈ text then
    write "\"\"\"".toList
    write text
    write "\"\"\"\n".toList
  else
    write ['"']
    write text
    write "\"\n".toList

def description (type : Name) (field : Option Name) (indent : Text) : Option Text → Emitter
  | none => pure ()
  | some text => do
      stopAt (descriptionFault? type field (some text))
      checkedDescription indent text

def directive (directive : Directive) : Emitter := do
  stopAt directive.fault?
  write [' ']
  write directive.encode

def typeReference (decl : FieldDecl) : Emitter := do
  onlyIf decl.isList (write ['['])
  write decl.typeName.text
  onlyIf decl.isList (write [']'])
  onlyIf decl.isRequired (write ['!'])

def fieldDecl (owner : TypeDecl) (indent : Text) (decl : FieldDecl) : Emitter := do
  description owner.name (some decl.name) indent decl.description
  write indent
  write decl.name.text
  write ": ".toList
  typeReference decl
  decl.directives.forM directive
  write ['\n']

def value (indent : Text) (value : Name) : Emitter := do
  write indent
  write value.text
  write ['\n']

def memberDecls (owner : TypeDecl) (indent : Text) : Emitter :=
  match owner.body with
  | .object fields => fields.forM (fieldDecl owner indent)
  | .enumeration values => values.forM (value indent)

def typeDecl (indent : Text) (decl : TypeDecl) : Emitter := do
  description decl.name none [] decl.description
  write decl.kind.keyword
  write [' ']
  write decl.name.text
  decl.directives.forM directive
  write " \x7b\n".toList
  memberDecls decl indent
  write ['\x7d']

def schema (width : Nat) (schema : Schema) : Emitter :=
  schema.types.zipIdx.forM fun numbered => do
    onlyIf (0 < numbered.2) (write ['\n', '\n'])
    typeDecl (List.replicate width ' ') numbered.1

/-- The program stops with the fault.  Without one it appends the text to any output. -/
def Emits (emitter : Emitter) (fault? : Option PrintError) (text : Text) : Prop :=
  ∀ output, emitter.run output =
    match fault? with
    | none => .ok ((), output ++ text)
    | some error => .error error

theorem emits_pure : Emits (pure ()) none [] := by
  intro output
  rw [List.append_nil]
  rfl

theorem emits_write (text : Text) : Emits (write text) none text :=
  fun _ => rfl

theorem emits_stopAt (fault? : Option PrintError) : Emits (stopAt fault?) fault? [] := by
  cases fault? with
  | none => exact emits_pure
  | some error => exact fun _ => rfl

namespace Emits

variable {first second : Emitter} {firstFault secondFault : Option PrintError}
  {firstText secondText : Text}

theorem of_eq (emits : Emits first firstFault firstText) (sameFault : firstFault = secondFault)
    (sameText : firstText = secondText) : Emits first secondFault secondText := by
  subst sameFault sameText
  exact emits

theorem bind (emits : Emits first firstFault firstText)
    (next : Emits second secondFault secondText) :
    Emits (first >>= fun _ => second) (firstFault.or secondFault) (firstText ++ secondText) := by
  intro output
  rw [StateT.run_bind, emits output]
  cases firstFault with
  | some error => rfl
  | none =>
      -- The second program starts behind what the first has written.
      change second.run (output ++ firstText) = _
      rw [next, Option.none_or, List.append_assoc]

theorem forM {α : Type} {emitter : α → Emitter} {fault? : α → Option PrintError}
    {text : α → Text} (emits : ∀ item, Emits (emitter item) (fault? item) (text item))
    (items : List α) :
    Emits (items.forM emitter) (items.findSome? fault?) (items.flatMap text) := by
  induction items with
  | nil => exact emits_pure
  | cons item rest ih =>
      have both := (emits item).bind ih
      rw [List.findSome?_cons, List.flatMap_cons]
      cases found : fault? item <;> rwa [found] at both

theorem forM_of_no_fault {α : Type} {emitter : α → Emitter} {text : α → Text}
    (emits : ∀ item, Emits (emitter item) none (text item)) (items : List α) :
    Emits (items.forM emitter) none (items.flatMap text) := by
  have all := forM emits items
  rwa [List.findSome?_eq_none_iff.mpr fun _ _ => rfl] at all

theorem onlyIf {emitter : Emitter} {text : Text} (emits : Emits emitter none text)
    (condition : Prop) [Decidable condition] :
    Emits (Emitter.onlyIf condition emitter) none (if condition then text else []) := by
  unfold Emitter.onlyIf
  split
  · exact emits
  · exact emits_pure

end Emits

theorem emits_blockLine (indent line : Text) :
    Emits (blockLine indent line) none (renderBlockLine indent line) := by
  have content := (emits_write indent).bind (emits_write line)
  have emits := (content.onlyIf (line ≠ [])).bind (emits_write ['\n'])
  unfold renderBlockLine
  cases line with
  | nil => exact emits
  | cons c rest => exact emits

theorem emits_checkedDescription (indent text : Text) :
    Emits (checkedDescription indent text) none (renderDescription indent text) := by
  unfold checkedDescription renderDescription
  split
  · have lines := Emits.forM_of_no_fault (emits_blockLine indent) text.lines
    have emits := (emits_write indent).bind ((emits_write "\"\"\"\n".toList).bind (lines.bind
      ((emits_write indent).bind (emits_write "\"\"\"\n".toList))))
    exact emits.of_eq rfl (by simp)
  · split
    · have emits := (emits_write indent).bind ((emits_write "\"\"\"".toList).bind
        ((emits_write text).bind (emits_write "\"\"\"\n".toList)))
      exact emits.of_eq rfl (by simp)
    · have emits := (emits_write indent).bind ((emits_write ['"']).bind
        ((emits_write text).bind (emits_write "\"\n".toList)))
      exact emits.of_eq rfl (by simp)

theorem emits_description (type : Name) (field : Option Name) (indent : Text)
    (written : Option Text) :
    Emits (description type field indent written) (descriptionFault? type field written)
      (renderOptionalDescription indent written) := by
  cases written with
  | none => exact emits_pure
  | some text =>
      have emits := (emits_stopAt (descriptionFault? type field (some text))).bind
        (emits_checkedDescription indent text)
      exact emits.of_eq (Option.or_none ..) rfl

theorem emits_directive (item : Directive) :
    Emits (directive item) item.fault? (' ' :: item.encode) := by
  have emits := (emits_stopAt item.fault?).bind
    ((emits_write [' ']).bind (emits_write item.encode))
  exact emits.of_eq (Option.or_none ..) rfl

theorem emits_directives (items : List Directive) :
    Emits (items.forM directive) (items.findSome? Directive.fault?) (renderDirectives items) :=
  Emits.forM emits_directive items

theorem emits_typeReference (decl : FieldDecl) :
    Emits (typeReference decl) none decl.typeText := by
  have emits := ((emits_write ['[']).onlyIf (decl.isList = true)).bind
    ((emits_write decl.typeName.text).bind
      (((emits_write [']']).onlyIf (decl.isList = true)).bind
        ((emits_write ['!']).onlyIf (decl.isRequired = true))))
  apply emits.of_eq rfl
  rw [Field.typeText]
  cases decl.isList <;> simp

/-- What is left of a field is what is left of it without its id, and so for what contains it. -/
theorem emits_fieldDecl (owner : TypeDecl) (indent : Text) (decl : FieldDecl) :
    Emits (fieldDecl owner indent decl) (decl.toField.fault? owner.name)
      (decl.toField.render indent) := by
  have described := emits_description owner.name (some decl.name) indent decl.description
  have annotated := emits_directives decl.directives
  have emits := described.bind ((emits_write indent).bind ((emits_write decl.name.text).bind
    ((emits_write ": ".toList).bind ((emits_typeReference decl).bind
      (annotated.bind (emits_write ['\n']))))))
  exact emits.of_eq (by simp [Field.fault?]) (by simp [Field.render])

theorem emits_value (indent : Text) (item : Name) :
    Emits (value indent item) none (indent ++ item.text ++ ['\n']) := by
  have emits := (emits_write indent).bind ((emits_write item.text).bind (emits_write ['\n']))
  exact emits.of_eq rfl (by simp)

theorem emits_memberDecls (owner : TypeDecl) (indent : Text) :
    Emits (memberDecls owner indent)
      (owner.declaration.body.fields.findSome? (Field.fault? owner.name))
      (owner.declaration.body.render indent) := by
  rw [memberDecls, TypeDecl.declaration]
  cases owner.body with
  | object fields =>
      have emits := Emits.forM (emits_fieldDecl owner indent) fields
      apply emits.of_eq
      · change _ = (fields.map FieldDecl.toField).findSome? (Field.fault? owner.name)
        rw [List.findSome?_map]
        rfl
      · exact (List.flatMap_map ..).symm
  | enumeration values => exact Emits.forM_of_no_fault (emits_value indent) values

theorem emits_typeDecl (indent : Text) (decl : TypeDecl) :
    Emits (typeDecl indent decl) decl.declaration.fault? (decl.declaration.render indent) := by
  have described := emits_description decl.name none [] decl.description
  have annotated := emits_directives decl.directives
  have sameKind : decl.declaration.body.kind = decl.kind := by
    rw [TypeDecl.declaration, TypeDecl.kind]
    cases decl.body <;> rfl
  have emits := described.bind ((emits_write decl.kind.keyword).bind
    ((emits_write [' ']).bind ((emits_write decl.name.text).bind (annotated.bind
      ((emits_write " \x7b\n".toList).bind
        ((emits_memberDecls decl indent).bind (emits_write ['\x7d'])))))))
  apply emits.of_eq
  · simp [Declaration.fault?, Option.or_assoc, TypeDecl.declaration]
  · rw [Declaration.render, sameKind]
    simp [TypeDecl.declaration]

theorem flatMap_zipIdx_succ {α : Type} (separator : Text) (text : α → Text) (items : List α)
    (before : Nat) :
    ((items.zipIdx (before + 1)).flatMap fun numbered =>
      (if 0 < numbered.2 then separator else []) ++ text numbered.1) =
        items.flatMap fun item => separator ++ text item := by
  induction items generalizing before with
  | nil => rfl
  | cons item rest ih =>
      rw [List.zipIdx_cons, List.flatMap_cons, List.flatMap_cons, ih, if_pos (by omega)]

/-- Parts that are set off from those in front of them. -/
theorem emits_separated {α : Type} {emitter : α → Emitter} {fault? : α → Option PrintError}
    {text : α → Text} (emits : ∀ item, Emits (emitter item) (fault? item) (text item))
    (separator : Text) (items : List α) :
    Emits
      (items.zipIdx.forM fun numbered => do
        onlyIf (0 < numbered.2) (write separator)
        emitter numbered.1)
      (items.findSome? fault?) (separator.intercalate (items.map text)) := by
  have each : ∀ numbered : α × Nat, Emits
      (do
        onlyIf (0 < numbered.2) (write separator)
        emitter numbered.1)
      (fault? numbered.1) ((if 0 < numbered.2 then separator else []) ++ text numbered.1) :=
    fun numbered => ((emits_write separator).onlyIf (0 < numbered.2)).bind (emits numbered.1)
  apply (Emits.forM each items.zipIdx).of_eq
  · have firsts := List.findSome?_map (f := Prod.fst) (l := items.zipIdx) (p := fault?)
    rw [List.zipIdx_map_fst] at firsts
    exact firsts.symm
  · -- Only the first item has the number 0, so a separator stands before each of the others.
    cases items with
    | nil => rfl
    | cons first rest =>
        rw [Text.intercalate_map_cons, List.zipIdx_cons, List.flatMap_cons, flatMap_zipIdx_succ]
        rfl

theorem emits_schema (width : Nat) (items : Schema) :
    Emits (schema width items) items.document.fault? (items.document.render width) := by
  have emits := emits_separated (emits_typeDecl (List.replicate width ' ')) ['\n', '\n'] items.types
  apply emits.of_eq
  · rw [Document.fault?, Schema.document, List.findSome?_map]
    rfl
  · rw [Document.render, Schema.document, List.map_map]
    rfl

end Emitter

/-- The text has two ends, and neither is white space. -/
structure Text.IsTight (text : Text) : Prop where
  begins : ∃ first rest, text = first :: rest ∧ isWhiteSpace first = false
  ends : ∃ rest last, text = rest ++ [last] ∧ isWhiteSpace last = false

namespace Text

theorem dropTrailing_concat {p : Char → Bool} {last : Char} (kept : p last = false) (text : Text) :
    dropTrailing p (text ++ [last]) = text ++ [last] := by
  induction text with
  | nil => simp [dropTrailing, kept]
  | cons c rest ih =>
      rw [List.cons_append, dropTrailing, ih]
      cases rest <;> rfl

theorem IsTight.trim {text : Text} (tight : text.IsTight) : text.trim = text := by
  obtain ⟨first, rest, begins, firstInk⟩ := tight.begins
  obtain ⟨before, last, ends, lastInk⟩ := tight.ends
  unfold Text.trim
  have noneDropped : text.dropWhile isWhiteSpace = text := by
    rw [begins, List.dropWhile_cons_of_neg (by simp [firstInk])]
  rw [noneDropped, ends, dropTrailing_concat lastInk]

theorem IsTight.append {left right : Text} (leftTight : left.IsTight) (rightTight : right.IsTight)
    (middle : Text) : (left ++ (middle ++ right)).IsTight := by
  obtain ⟨first, rest, rfl, firstInk⟩ := leftTight.begins
  obtain ⟨before, last, rfl, lastInk⟩ := rightTight.ends
  constructor
  · exact ⟨first, _, rfl, firstInk⟩
  · exact ⟨first :: rest ++ (middle ++ before), last, by simp, lastInk⟩

theorem isTight_intercalate {separator : Text} {texts : List Text} (nonempty : texts ≠ [])
    (tight : ∀ text ∈ texts, text.IsTight) : IsTight (separator.intercalate texts) := by
  induction texts with
  | nil => contradiction
  | cons first rest ih =>
      have firstTight := tight first List.mem_cons_self
      cases rest with
      | nil =>
          rw [List.intercalate_singleton]
          exact firstTight
      | cons second more =>
          rw [List.intercalate_cons_cons, List.append_assoc]
          apply firstTight.append
          apply ih
          · exact List.cons_ne_nil second more
          · exact fun text member => tight text (List.mem_cons_of_mem first member)

end Text

theorem renderDescription_eq_quote_cons (text : Text) :
    ∃ rest, renderDescription [] text = '"' :: rest := by
  unfold renderDescription
  split
  · exact ⟨_, rfl⟩
  · split
    · exact ⟨_, rfl⟩
    · exact ⟨_, rfl⟩

theorem TypeKind.keyword_eq_cons (kind : TypeKind) :
    ∃ first rest, kind.keyword = first :: rest ∧ Text.isWhiteSpace first = false := by
  cases kind with
  | object => exact ⟨'t', _, rfl, by decide⟩
  | enumeration => exact ⟨'e', _, rfl, by decide⟩

theorem Declaration.isTight_render (indent : Text) (declaration : Declaration Field) :
    (declaration.render indent).IsTight := by
  unfold render
  constructor
  · cases declaration.description with
    | none =>
        obtain ⟨first, rest, keyword, ink⟩ := declaration.body.kind.keyword_eq_cons
        rw [keyword]
        exact ⟨first, _, rfl, ink⟩
    | some text =>
        obtain ⟨rest, quoted⟩ := renderDescription_eq_quote_cons text
        rw [renderOptionalDescription, quoted]
        exact ⟨'"', _, rfl, by decide⟩
  · exact ⟨_, '\x7d', (List.append_assoc ..).symm, by decide⟩

theorem Document.trim_render (width : Nat) (document : Document) :
    (document.render width).trim = document.render width := by
  unfold render
  cases document with
  | nil => rfl
  | cons first rest =>
      apply Text.IsTight.trim
      apply Text.isTight_intercalate
      · simp
      · rw [List.forall_mem_map]
        exact fun declaration _ => declaration.isTight_render _

namespace Schema

/-- The canonical text as it is made from the declarations with their ids, or the error at which that
stops. -/
def printDeclarations (width : Nat) (schema : Schema) : Except PrintError Text :=
  ((Emitter.schema width schema).run []).map fun result => result.2.trim

theorem printDeclarations_eq_print (width : Nat) (schema : Schema) :
    schema.printDeclarations width = schema.print width := by
  rw [printDeclarations, Emitter.emits_schema, print, Document.print]
  cases schema.document.fault? with
  | none => exact congrArg Except.ok (schema.document.trim_render width)
  | some error => rfl

end Schema

namespace Document

/-- The canonical text as one pass leaves it once the declarations have ids, or the error at which the
pass stops. -/
def printInOnePass (width : Nat) (document : Document) : Except PrintError Text :=
  (document.identify ⟨0⟩).1.printDeclarations width

theorem printInOnePass_eq_print (width : Nat) (document : Document) :
    document.printInOnePass width = document.print width := by
  rw [printInOnePass, Schema.printDeclarations_eq_print, Schema.print, document_identify]

theorem print_eq_error_iff (document : Document) (width : Nat) (error : PrintError) :
    document.print width = .error error ↔ document.fault? = some error := by
  unfold print
  cases document.fault? with
  | none => simp
  | some fault => simp

end Document

namespace Schema

/-- Printing fails exactly when some argument or description cannot be written, at every indentation
with the same error, and the error is that of the first offence in document order.  The pass that
checks while it writes has the same result. -/
theorem print_fails_at_first_offence (schema : Schema) (width : Nat) :
    ((∃ error, schema.print width = .error error) ↔
      (∃ directive ∈ schema.document.directives, directive.IsUnquotable) ∨
        ∃ text ∈ schema.document.descriptions, text.BreaksBlock) ∧
      (∀ error, schema.print width = .error error ↔
        ∃ item, IsFirst Inscription.Offends item schema.document.inscriptions ∧
          item.error = error) ∧
      (∀ other error, schema.print width = .error error ↔ schema.print other = .error error) ∧
      schema.document.printInOnePass width = schema.print width := by
  have fails : ∀ width error, schema.print width = .error error ↔
      schema.document.fault? = some error := schema.document.print_eq_error_iff
  constructor
  · simp only [fails, Document.exists_fault_iff]
  constructor
  · intro error
    rw [fails, Document.fault?_eq_firstError?, Inscription.firstError?_eq_some_iff]
  constructor
  · intro other error
    rw [fails, fails]
  · exact schema.document.printInOnePass_eq_print width

end Schema

end SdlWorkbench
