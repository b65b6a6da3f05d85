import JamyeServer.Framing
import JamyeServer.Text

/-!
# Legal pages

`transport/http/legal/render.rs`: a fragment of HTML with address blocks and placeholders, and the values of the operator
put into it. A fragment is read as a template, and what is rendered is that template filled in.
-/

namespace JamyeServer.Legal

open Framing

section Source

def addressStart : List Char := "<!-- address:start -->".toList
def addressEnd : List Char := "<!-- address:end -->".toList
def placeholderOpen : List Char := "\x7b\x7b".toList
def placeholderClose : List Char := "\x7d\x7d".toList

structure LegalConfig where
  operatorName : String
  contactEmail : String
  operatorAddress : Option String
  deriving DecidableEq

inductive LegalRenderErrorKind
  | unresolvedPlaceholder (name : List Char)
  | unterminatedPlaceholder
  | malformedAddressBlock
  | residualDelimiter
  deriving DecidableEq, Repr

structure LegalRenderError where
  page : String
  kind : LegalRenderErrorKind
  deriving DecidableEq, Repr

variable (page : String)

/-- The loop of `address_segments`. -/
def addressSegments (keepAddress : Bool) (rest : List Char) : Except LegalRenderError (List (List Char)) :=
  match hstart : splitOnce addressStart rest with
  | none => if addressEnd <:+: rest then .error ⟨page, .malformedAddressBlock⟩ else .ok [rest]
  | some (before, afterStart) =>
    match hend : splitOnce addressEnd afterStart with
    | none => .error ⟨page, .malformedAddressBlock⟩
    | some (inner, afterEnd) =>
      if addressStart <:+: inner then .error ⟨page, .malformedAddressBlock⟩
      else (addressSegments keepAddress afterEnd).map fun segments =>
        before :: ((if keepAddress then [inner] else []) ++ segments)
termination_by rest.length
decreasing_by
  have h₁ := length_splitOnce (by decide) hstart
  have h₂ := length_splitOnce (by decide) hend
  omega

/-- The value of a placeholder. -/
def LegalConfig.value (config : LegalConfig) (name : List Char) : Option String :=
  if name = "OPERATOR_NAME".toList then some config.operatorName
  else if name = "CONTACT_EMAIL".toList then some config.contactEmail
  else if name = "OPERATOR_ADDRESS".toList then config.operatorAddress
  else none

def escapeChar (c : Char) : List Char :=
  if c = '&' then "&amp;".toList
  else if c = '<' then "&lt;".toList
  else if c = '>' then "&gt;".toList
  else if c = '"' then "&quot;".toList
  else if c = '\'' then "&#39;".toList
  else [c]

/-- `push_escaped`. -/
def escaped (value : String) : List Char := value.toList.flatMap escapeChar

/-- The loop of `substitute`. -/
def substitute (config : LegalConfig) (rest : List Char) : Except LegalRenderError (List Char) :=
  match hopen : splitOnce placeholderOpen rest with
  | none => .ok rest
  | some (before, afterOpen) =>
    match hclose : splitOnce placeholderClose afterOpen with
    | none => .error ⟨page, .unterminatedPlaceholder⟩
    | some (name, afterClose) =>
      match config.value name with
      | none => .error ⟨page, .unresolvedPlaceholder name⟩
      | some value => (substitute config afterClose).map fun output => before ++ escaped value ++ output
termination_by rest.length
decreasing_by
  have h₁ := length_splitOnce (by decide) hopen
  have h₂ := length_splitOnce (by decide) hclose
  omega

def renderBody (fragment : String) (config : LegalConfig) : Except LegalRenderError String := do
  let segments ← addressSegments page config.operatorAddress.isSome fragment.toList
  let outputs ← segments.mapM (substitute page config)
  if placeholderOpen <:+: outputs.flatten then throw ⟨page, .residualDelimiter⟩
  return String.ofList outputs.flatten

end Source

section Templates

inductive Piece
  | text (literal : List Char)
  | placeholder (name : List Char)

inductive Block
  | outside (pieces : List Piece)
  | address (pieces : List Piece)

def Piece.source : Piece → List Char
  | .text literal => literal
  | .placeholder name => placeholderOpen ++ name ++ placeholderClose

/-- The text of a piece under a configuration. A placeholder without a value has none. -/
def Piece.filled (config : LegalConfig) : Piece → List Char
  | .text literal => literal
  | .placeholder name => (config.value name).elim [] escaped

def Block.pieces : Block → List Piece
  | .outside pieces => pieces
  | .address pieces => pieces

def Block.isAddress : Block → Bool
  | .outside _ => false
  | .address _ => true

def Block.source : Block → List Char
  | .outside pieces => pieces.flatMap Piece.source
  | .address pieces => addressStart ++ pieces.flatMap Piece.source ++ addressEnd

/-- Address blocks are dropped where no address is configured. -/
def Block.filled (config : LegalConfig) (block : Block) : List Char :=
  if block.isAddress && config.operatorAddress.isNone then [] else block.pieces.flatMap (Piece.filled config)

/-- A segment read as pieces. What is not terminated stays text. -/
def parse (rest : List Char) : List Piece :=
  match hopen : splitOnce placeholderOpen rest with
  | none => [.text rest]
  | some (before, afterOpen) =>
    match hclose : splitOnce placeholderClose afterOpen with
    | none => [.text rest]
    | some (name, afterClose) => .text before :: .placeholder name :: parse afterClose
termination_by rest.length
decreasing_by
  have h₁ := length_splitOnce (by decide) hopen
  have h₂ := length_splitOnce (by decide) hclose
  omega

end Templates

section Reading

variable {page : String} {config : LegalConfig}

lemma map_eq_ok {ε α β : Type} {f : α → β} {x : Except ε α} {b : β} (h : x.map f = .ok b) : ∃ a, x = .ok a ∧ f a = b := by
  cases x with
  | error e => cases h
  | ok a =>
    cases h
    exact ⟨a, rfl, rfl⟩

lemma source_parse (rest : List Char) : (parse rest).flatMap Piece.source = rest := by
  fun_induction parse rest with
  | case1 rest hopen => exact List.flatMap_singleton _ _
  | case2 rest before afterOpen hopen hclose => exact List.flatMap_singleton _ _
  | case3 rest before afterOpen hopen name afterClose hclose ih =>
    rw [List.flatMap_cons, List.flatMap_cons, ih, Piece.source, Piece.source]
    rw [splitOnce_eq_some hopen, splitOnce_eq_some hclose]
    simp only [List.append_assoc]

/-- The pieces of a segment that can be filled: no text holds the opening of a placeholder, and every placeholder has a
value. -/
def Fillable (config : LegalConfig) (pieces : List Piece) : Prop :=
  ∀ piece ∈ pieces, match piece with
    | .text literal => ¬ placeholderOpen <:+: literal
    | .placeholder name => (config.value name).isSome = true

lemma parse_of_none {rest : List Char} (h : splitOnce placeholderOpen rest = none) : parse rest = [.text rest] := by
  rw [parse]
  split
  next => rfl
  next heq =>
    rw [h] at heq
    cases heq

lemma parse_of_some {rest before afterOpen name afterClose : List Char}
    (h : splitOnce placeholderOpen rest = some (before, afterOpen))
    (h' : splitOnce placeholderClose afterOpen = some (name, afterClose)) :
    parse rest = .text before :: .placeholder name :: parse afterClose := by
  rw [parse]
  split
  next heq =>
    rw [h] at heq
    cases heq
  next heq =>
    cases h.symm.trans heq
    split
    next heq' =>
      rw [h'] at heq'
      cases heq'
    next heq' =>
      cases h'.symm.trans heq'
      rfl

/-- A segment is filled in as it was read. -/
lemma substitute_eq_ok {rest output : List Char} (h : substitute page config rest = .ok output) :
    Fillable config (parse rest) ∧ output = (parse rest).flatMap (Piece.filled config) := by
  fun_induction substitute page config rest generalizing output with
  | case1 rest hopen =>
    cases h
    rw [parse_of_none hopen]
    refine ⟨List.forall_mem_singleton.mpr (splitOnce_eq_none hopen), ?_⟩
    rw [List.flatMap_singleton]
    rfl
  | case2 rest before afterOpen hopen hclose => cases h
  | case3 rest before afterOpen hopen name afterClose hclose hvalue => cases h
  | case4 rest before afterOpen hopen name afterClose hclose value hvalue ih =>
    obtain ⟨output', houtput, rfl⟩ := map_eq_ok h
    obtain ⟨hfill, rfl⟩ := ih houtput
    have hbefore : ¬ placeholderOpen <:+: before := by
      intro hoccurs
      exact splitOnce_not_infix hopen (by decide) (hoccurs.trans (List.infix_append' [] before _))
    rw [parse_of_some hopen hclose]
    constructor
    · refine List.forall_mem_cons.mpr ⟨hbefore, List.forall_mem_cons.mpr ⟨?_, hfill⟩⟩
      exact Option.isSome_of_eq_some hvalue
    · rw [List.flatMap_cons, List.flatMap_cons, Piece.filled, Piece.filled, hvalue, List.append_assoc]
      rfl

/-- A part of the fragment: whether it is the inside of an address block, and its text. -/
abbrev Part := Bool × List Char

def Part.source (part : Part) : List Char := if part.1 then addressStart ++ part.2 ++ addressEnd else part.2

/-- No part holds the start of an address block, and no address block its end. -/
def Part.Unmarked (part : Part) : Prop := ¬ addressStart <:+: part.2 ∧ (part.1 = true → ¬ addressEnd <:+: part.2)

/-- The segments are the parts of the fragment, with the address blocks kept or dropped. -/
lemma addressSegments_eq_ok {keepAddress : Bool} {rest : List Char} {segments : List (List Char)}
    (h : addressSegments page keepAddress rest = .ok segments) :
    ∃ parts : List Part, rest = parts.flatMap Part.source ∧ (∀ part ∈ parts, part.Unmarked) ∧
      segments = (parts.filter fun part => !part.1 || keepAddress).map Prod.snd := by
  have hmarks : ∀ {pattern l before after : List Char}, splitOnce pattern l = some (before, after) → pattern ≠ [] →
      ¬ pattern <:+: before := by
    intro pattern l before after hsplit hne hoccurs
    exact splitOnce_not_infix hsplit hne (hoccurs.trans (List.infix_append' [] before _))
  fun_induction addressSegments page keepAddress rest generalizing segments with
  | case1 rest hstart hend => cases h
  | case2 rest hstart hend =>
    cases h
    refine ⟨[(false, rest)], (List.flatMap_singleton Part.source (false, rest)).symm, ?_, rfl⟩
    refine List.forall_mem_singleton.mpr ⟨splitOnce_eq_none hstart, fun hfalse => ?_⟩
    cases hfalse
  | case3 rest before afterStart hstart hend => cases h
  | case4 rest before afterStart hstart inner afterEnd hend hinner => cases h
  | case5 rest before afterStart hstart inner afterEnd hend hinner ih =>
    obtain ⟨segments', hsegments, rfl⟩ := map_eq_ok h
    obtain ⟨parts, hsource, hunmarked, rfl⟩ := ih hsegments
    refine ⟨(false, before) :: (true, inner) :: parts, ?_, ?_, ?_⟩
    · rw [List.flatMap_cons, List.flatMap_cons, ← hsource, splitOnce_eq_some hstart, splitOnce_eq_some hend]
      simp only [Part.source, if_true, Bool.false_eq_true, if_false, List.append_assoc]
    · refine List.forall_mem_cons.mpr ⟨⟨hmarks hstart (by decide), fun hfalse => by cases hfalse⟩, ?_⟩
      exact List.forall_mem_cons.mpr ⟨⟨hinner, fun _ => hmarks hend (by decide)⟩, hunmarked⟩
    · cases keepAddress <;> rfl

/-- The parts read as blocks. What is dropped is not read. -/
def Part.block (keepAddress : Bool) (part : Part) : Block :=
  if part.1 then .address (if keepAddress then parse part.2 else [.text part.2]) else .outside (parse part.2)

lemma source_block (keepAddress : Bool) (part : Part) : (part.block keepAddress).source = part.source := by
  obtain ⟨isAddress, text⟩ := part
  cases isAddress with
  | false => exact source_parse text
  | true =>
    have hpieces : (if keepAddress then parse text else [.text text]).flatMap Piece.source = text := by
      split
      · exact source_parse text
      · exact List.flatMap_singleton _ _
    simp only [Part.block, Part.source, if_true, Block.source, hpieces]

lemma mapM_substitute {segments outputs : List (List Char)} (h : segments.mapM (substitute page config) = .ok outputs) :
    (∀ segment ∈ segments, Fillable config (parse segment)) ∧
      outputs.flatten = segments.flatMap fun segment => (parse segment).flatMap (Piece.filled config) := by
  induction segments generalizing outputs with
  | nil =>
    cases h
    exact ⟨List.forall_mem_nil _, rfl⟩
  | cons segment rest ih =>
    rw [List.mapM_cons] at h
    cases hsegment : substitute page config segment with
    | error e =>
      rw [hsegment] at h
      cases h
    | ok output =>
      cases hrest : rest.mapM (substitute page config) with
      | error e =>
        rw [hsegment, hrest] at h
        cases h
      | ok outputs' =>
        rw [hsegment, hrest] at h
        cases h
        obtain ⟨hfill, rfl⟩ := substitute_eq_ok hsegment
        obtain ⟨hfills, hflatten⟩ := ih hrest
        refine ⟨List.forall_mem_cons.mpr ⟨hfill, hfills⟩, ?_⟩
        rw [List.flatten_cons, hflatten, List.flatMap_cons]

end Reading

section Unescape

/-- Character references of HTML: some table of names with the five that the escape writes. -/
structure References where
  entity : List Char → Option (List Char)
  amp : entity "amp".toList = some ['&']
  lt : entity "lt".toList = some ['<']
  gt : entity "gt".toList = some ['>']
  quot : entity "quot".toList = some ['"']
  apos : entity "#39".toList = some ['\'']

/-- The text with its references replaced, from left to right. `name` is what has been read of a reference; what turns
out not to be one stays. -/
def References.unescapeFrom (R : References) : Option (List Char) → List Char → List Char
  | none, [] => []
  | some name, [] => '&' :: name
  | none, c :: rest => if c = '&' then R.unescapeFrom (some []) rest else c :: R.unescapeFrom none rest
  | some name, c :: rest =>
    if c = ';' then (R.entity name).getD ('&' :: name ++ [';']) ++ R.unescapeFrom none rest
    else if c = '&' then '&' :: name ++ R.unescapeFrom (some []) rest
    else R.unescapeFrom (some (name ++ [c])) rest

def References.unescape (R : References) (text : List Char) : List Char := R.unescapeFrom none text

lemma unescapeFrom_escapeChar (R : References) (c : Char) (rest : List Char) :
    R.unescapeFrom none (escapeChar c ++ rest) = c :: R.unescapeFrom none rest := by
  have hamp : R.entity ['a', 'm', 'p'] = some ['&'] := R.amp
  have hlt : R.entity ['l', 't'] = some ['<'] := R.lt
  have hgt : R.entity ['g', 't'] = some ['>'] := R.gt
  have hquot : R.entity ['q', 'u', 'o', 't'] = some ['"'] := R.quot
  have hapos : R.entity ['#', '3', '9'] = some ['\''] := R.apos
  unfold escapeChar
  split
  next h => simp [References.unescapeFrom, hamp, h]
  split
  next h => simp [References.unescapeFrom, hlt, h]
  split
  next h => simp [References.unescapeFrom, hgt, h]
  split
  next h => simp [References.unescapeFrom, hquot, h]
  split
  next h => simp [References.unescapeFrom, hapos, h]
  next hne _ _ _ _ => simp [References.unescapeFrom, hne]

/-- Unescaping gives the value back. -/
lemma unescape_escaped (R : References) (value : String) : R.unescape (escaped value) = value.toList := by
  unfold References.unescape escaped
  induction value.toList with
  | nil => rfl
  | cons c rest ih => rw [List.flatMap_cons, unescapeFrom_escapeChar, ih]

end Unescape

section Markup

def markupCharacters : List Char := ['<', '>', '"', '\'']

/-- The markup characters of a text, in their order. -/
def markup (text : List Char) : List Char := text.filter fun c => c ∈ markupCharacters

lemma markup_append (text text' : List Char) : markup (text ++ text') = markup text ++ markup text' := List.filter_append _ _

lemma markup_flatMap {α : Type} (f : α → List Char) (l : List α) : markup (l.flatMap f) = l.flatMap fun a => markup (f a) := by
  induction l with
  | nil => rfl
  | cons a l ih => rw [List.flatMap_cons, markup_append, ih, List.flatMap_cons]

lemma markup_escapeChar (c : Char) : markup (escapeChar c) = [] := by
  unfold escapeChar
  split
  next => decide
  split
  next => decide
  split
  next => decide
  split
  next => decide
  split
  next => decide
  next => simp [markup, markupCharacters, *]

/-- An escaped value has no markup. -/
lemma markup_escaped (value : String) : markup (escaped value) = [] := by
  rw [escaped, markup_flatMap]
  simp [markup_escapeChar]

/-- The markup of a piece does not depend on the configuration. -/
lemma markup_filled (config config' : LegalConfig) (piece : Piece) :
    markup (piece.filled config) = markup (piece.filled config') := by
  have hplaceholder : ∀ (config : LegalConfig) name, markup ((Piece.placeholder name).filled config) = [] := by
    intro config name
    rw [Piece.filled]
    cases config.value name with
    | none => rfl
    | some value => exact markup_escaped value
  cases piece with
  | text literal => rfl
  | placeholder name => rw [hplaceholder, hplaceholder]

lemma markup_block {config config' : LegalConfig} (h : config.operatorAddress.isSome = config'.operatorAddress.isSome)
    (block : Block) : markup (block.filled config) = markup (block.filled config') := by
  have hnone : config.operatorAddress.isNone = config'.operatorAddress.isNone := by
    rw [← Option.not_isSome, ← Option.not_isSome, h]
  unfold Block.filled
  rw [hnone]
  split
  · rfl
  · rw [markup_flatMap, markup_flatMap]
    exact congrArg (List.flatMap · _) (funext fun piece => markup_filled config config' piece)

end Markup

section Rendering

variable {page fragment : String} {config : LegalConfig}

/-- A template of a fragment: its blocks are cut at the markers of the fragment. -/
structure Reads (fragment : List Char) (template : List Block) : Prop where
  source : template.flatMap Block.source = fragment
  start : ∀ block ∈ template, ¬ addressStart <:+: block.pieces.flatMap Piece.source
  stop : ∀ block ∈ template, block.isAddress = true → ¬ addressEnd <:+: block.pieces.flatMap Piece.source

lemma reads_parts {parts : List Part} (keepAddress : Bool) (hunmarked : ∀ part ∈ parts, part.Unmarked) :
    Reads (parts.flatMap Part.source) (parts.map (Part.block keepAddress)) := by
  have hpieces : ∀ part : Part, (part.block keepAddress).pieces.flatMap Piece.source = part.2 := by
    rintro ⟨isAddress, text⟩
    cases isAddress with
    | false => exact source_parse text
    | true =>
      simp only [Part.block, if_true, Block.pieces]
      split
      · exact source_parse text
      · exact List.flatMap_singleton _ _
  refine ⟨?_, ?_, ?_⟩
  · rw [List.flatMap_map]
    exact congrArg (List.flatMap · _) (funext fun part => source_block keepAddress part)
  · intro block hblock
    obtain ⟨part, hpart, rfl⟩ := List.mem_map.mp hblock
    rw [hpieces]
    exact (hunmarked part hpart).1
  · intro block hblock haddress
    obtain ⟨part, hpart, rfl⟩ := List.mem_map.mp hblock
    rw [hpieces]
    refine (hunmarked part hpart).2 ?_
    obtain ⟨isAddress, text⟩ := part
    cases isAddress with
    | false => cases haddress
    | true => rfl

/-- What is kept of the parts, filled in, is the template filled in. -/
lemma filled_parts (parts : List Part) :
    ((parts.filter fun part => !part.1 || config.operatorAddress.isSome).map Prod.snd).flatMap
        (fun segment => (parse segment).flatMap (Piece.filled config)) =
      (parts.map (Part.block config.operatorAddress.isSome)).flatMap (Block.filled config) := by
  induction parts with
  | nil => rfl
  | cons part parts ih =>
    obtain ⟨isAddress, text⟩ := part
    rw [List.map_cons, List.flatMap_cons, ← ih, List.filter_cons]
    cases isAddress with
    | false => simp [Part.block, Block.filled, Block.isAddress, Block.pieces]
    | true =>
      cases haddress : config.operatorAddress with
      | none => simp [Part.block, Block.filled, Block.isAddress, haddress]
      | some address => simp [Part.block, Block.filled, Block.isAddress, Block.pieces, haddress]

/-- A rendered page is a template of the fragment, filled in. -/
lemma renderBody_eq_ok {output : String} {parts : List Part}
    (hparts : addressSegments page config.operatorAddress.isSome fragment.toList =
      .ok ((parts.filter fun part => !part.1 || config.operatorAddress.isSome).map Prod.snd))
    (h : renderBody page fragment config = .ok output) :
    output.toList = (parts.map (Part.block config.operatorAddress.isSome)).flatMap (Block.filled config) ∧
      (∀ block ∈ parts.map (Part.block config.operatorAddress.isSome),
        (block.isAddress = true → config.operatorAddress.isSome = true) → Fillable config block.pieces) ∧
      ¬ placeholderOpen <:+: output.toList := by
  rw [renderBody, hparts] at h
  cases hmap : ((parts.filter fun part => !part.1 || config.operatorAddress.isSome).map Prod.snd).mapM
      (substitute page config) with
  | error e =>
    simp only [bind, Except.bind, hmap] at h
    cases h
  | ok outputs =>
    obtain ⟨hfill, hflatten⟩ := mapM_substitute hmap
    simp only [bind, Except.bind, hmap] at h
    split at h
    next => cases h
    next hopen =>
      cases h
      rw [String.toList_ofList]
      refine ⟨by rw [hflatten, filled_parts], ?_, hopen⟩
      intro block hblock hkept
      obtain ⟨part, hpart, rfl⟩ := List.mem_map.mp hblock
      have hmem : part.1 = false ∨ config.operatorAddress.isSome = true →
          part.2 ∈ (parts.filter fun part => !part.1 || config.operatorAddress.isSome).map Prod.snd := by
        intro hpart'
        refine List.mem_map_of_mem (List.mem_filter.mpr ⟨hpart, ?_⟩)
        rcases hpart' with h' | h' <;> simp [h']
      obtain ⟨isAddress, text⟩ := part
      cases isAddress with
      | false => exact hfill text (hmem (.inl rfl))
      | true =>
        have haddress := hkept rfl
        simp only [Part.block, if_true, haddress, Block.pieces]
        exact hfill text (hmem (.inr haddress))

/-- Two configurations that both have an address, or both have none, fill in one template of the fragment. Their pages
have the same markup; every placeholder that is kept is replaced by a value that unescapes to the configured one; and
no page holds the opening of a placeholder. -/
theorem renderBody_template (R : References) {config' : LegalConfig} {output output' : String}
    (haddress : config.operatorAddress.isSome = config'.operatorAddress.isSome)
    (h : renderBody page fragment config = .ok output) (h' : renderBody page fragment config' = .ok output') :
    markup output.toList = markup output'.toList ∧
    (∃ template, Reads fragment.toList template ∧
      output.toList = template.flatMap (Block.filled config) ∧ output'.toList = template.flatMap (Block.filled config') ∧
      ∀ block ∈ template, (block.isAddress = true → config.operatorAddress.isSome = true) → ∀ piece ∈ block.pieces,
        match piece with
        | .text literal => ¬ placeholderOpen <:+: literal
        | .placeholder name => ∃ value value', config.value name = some value ∧ config'.value name = some value' ∧
          piece.filled config = escaped value ∧ R.unescape (escaped value) = value.toList ∧
          piece.filled config' = escaped value' ∧ R.unescape (escaped value') = value'.toList) ∧
    ¬ placeholderOpen <:+: output.toList ∧ ¬ placeholderOpen <:+: output'.toList := by
  obtain ⟨segments, hsegments⟩ : ∃ segments,
      addressSegments page config.operatorAddress.isSome fragment.toList = .ok segments := by
    cases hsegments : addressSegments page config.operatorAddress.isSome fragment.toList with
    | error e =>
      simp only [renderBody, hsegments] at h
      cases h
    | ok segments => exact ⟨segments, rfl⟩
  obtain ⟨parts, hsource, hunmarked, rfl⟩ := addressSegments_eq_ok hsegments
  obtain ⟨houtput, hfill, hopen⟩ := renderBody_eq_ok hsegments h
  rw [haddress] at hsegments
  obtain ⟨houtput', hfill', hopen'⟩ := renderBody_eq_ok hsegments h'
  rw [← haddress] at houtput' hfill'
  refine ⟨?_, ⟨parts.map (Part.block config.operatorAddress.isSome), ?_, houtput, houtput', ?_⟩, hopen, hopen'⟩
  · rw [houtput, houtput', markup_flatMap, markup_flatMap]
    exact congrArg (List.flatMap · _) (funext fun block => markup_block haddress block)
  · rw [hsource]
    exact reads_parts _ hunmarked
  · intro block hblock hkept piece hpiece
    have hpiece₁ := hfill block hblock hkept piece hpiece
    have hpiece₂ := hfill' block hblock hkept piece hpiece
    cases piece with
    | text literal => exact hpiece₁
    | placeholder name =>
      obtain ⟨value, hvalue⟩ := Option.isSome_iff_exists.mp hpiece₁
      obtain ⟨value', hvalue'⟩ := Option.isSome_iff_exists.mp hpiece₂
      refine ⟨value, value', hvalue, hvalue', ?_, unescape_escaped R value, ?_, unescape_escaped R value'⟩
      · rw [Piece.filled, hvalue]
        rfl
      · rw [Piece.filled, hvalue']
        rfl

/-- The references that the escape writes. -/
def escapeReferences : References where
  entity name := [("amp".toList, ['&']), ("lt".toList, ['<']), ("gt".toList, ['>']), ("quot".toList, ['"']),
    ("#39".toList, ['\''])].lookup name
  amp := by decide
  lt := by decide
  gt := by decide
  quot := by decide
  apos := by decide

/-- A fragment with a placeholder in its text and one in an address block. -/
def sampleFragment : String :=
  "<p>\x7b\x7bOPERATOR_NAME\x7d\x7d</p><!-- address:start --><b>\x7b\x7bOPERATOR_ADDRESS\x7d\x7d</b><!-- address:end -->"

/-- Values with braces, markup and a marker of the template. -/
def sampleConfig : LegalConfig := ⟨"Tom & <b>", "legal@example.test", some "\x7bSeoul <!-- address:end -->"⟩

def plainConfig : LegalConfig := ⟨"Operator", "legal@example.test", some "Seoul"⟩

theorem renderBody_template_at_sample :
    renderBody "terms" sampleFragment sampleConfig = .ok
      "<p>Tom &amp; &lt;b&gt;</p><b>\x7bSeoul &lt;!-- address:end --&gt;</b>" ∧
    renderBody "terms" sampleFragment plainConfig = .ok "<p>Operator</p><b>Seoul</b>" ∧
    markup "<p>Tom &amp; &lt;b&gt;</p><b>\x7bSeoul &lt;!-- address:end --&gt;</b>".toList =
      markup "<p>Operator</p><b>Seoul</b>".toList := by
  have h : renderBody "terms" sampleFragment sampleConfig = .ok
      "<p>Tom &amp; &lt;b&gt;</p><b>\x7bSeoul &lt;!-- address:end --&gt;</b>" := by decide +kernel
  have h' : renderBody "terms" sampleFragment plainConfig =
      .ok "<p>Operator</p><b>Seoul</b>" := by decide +kernel
  have haddress : sampleConfig.operatorAddress.isSome = plainConfig.operatorAddress.isSome := rfl
  exact ⟨h, h', (renderBody_template escapeReferences haddress h h').1⟩

end Rendering

end JamyeServer.Legal
