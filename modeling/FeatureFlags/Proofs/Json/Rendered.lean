import FeatureFlags.Proofs.Json.Floats
import FeatureFlags.Proofs.Json.RenderedToken
import FeatureFlags.Proofs.Json.Reread

/-!
Rendered values read back. The text of a value is the texts of its parts between
brackets and commas, so its tokens are known from theirs. The tokens of a part
form the same document wherever a value is expected, and so the documents of the
parts are those of the whole. What is read is the value up to its floats, each of
which is the float that its text is read as.
-/

namespace FeatureFlags.Json

open Binary64.Finite (reread)
open Document (Progress Frame beginValue complete itemsToJson? membersToJson?)

/-- The text writes the value: in any order of members and any form of numbers,
but with no name twice in an object. -/
def Writes (text : List UInt8) (value : Json) : Prop :=
  ∃ document : Document, Document.parse? text = some document ∧ document.Distinct ∧
    document.toJson? maxNesting = some value

/-! ### Tokens in a text -/

/-- The text is made of these tokens. -/
def Lexes (text : List UInt8) (tokens : List Token) : Prop :=
  ∀ steps, text.length ≤ steps → readTokens steps text = some tokens

/-- The text gives these tokens to every text that it stands in front of and
that can follow a value. -/
def LexesAs (text : List UInt8) (tokens : List Token) : Prop :=
  ∀ rest more, Closed rest → Lexes rest more → Lexes (text ++ rest) (tokens ++ more)

section Lexes

variable {b : UInt8} {text rest : List UInt8} {token : Token} {tokens : List Token}

theorem lexes_nil : Lexes [] [] := fun steps _ => by cases steps <;> rfl

theorem Lexes.cons (hblank : isBlank b = false) (htoken : readToken b text = some (token, rest))
    (hlength : rest.length ≤ text.length) (hrest : Lexes rest tokens) :
    Lexes (b :: text) (token :: tokens) := by
  intro steps hsteps
  cases steps with
  | zero => cases hsteps
  | succ steps =>
      have hmore := hrest steps (Nat.le_trans hlength (Nat.le_of_succ_le_succ hsteps))
      simp only [readTokens, hblank, htoken, Bool.false_eq_true, if_false, bind, Option.bind_some,
        hmore]
      rfl

theorem lexesAs_nil : LexesAs [] [] := fun _ _ _ hmore => hmore

/-- A token of one byte. -/
theorem LexesAs.mark (hblank : isBlank b = false)
    (htoken : ∀ text, readToken b text = some (token, text)) (h : LexesAs text tokens) :
    LexesAs (b :: text) (token :: tokens) := fun rest more hrest hmore =>
  Lexes.cons hblank (htoken _) (Nat.le_refl _) (h rest more hrest hmore)

/-- One text after the other, where the second can follow a value. -/
theorem LexesAs.append {front back : List UInt8} {first second : List Token}
    (hfront : LexesAs front first) (hback : LexesAs back second)
    (hclosed : ∀ rest, Closed rest → Closed (back ++ rest)) :
    LexesAs (front ++ back) (first ++ second) := by
  intro rest more hrest hmore
  rw [List.append_assoc, List.append_assoc]
  exact hfront _ _ (hclosed rest hrest) (hback rest more hrest hmore)

theorem tokens?_of_lexesAs (h : LexesAs text tokens) : tokens? text = some tokens := by
  have hread := h [] [] nofun lexes_nil text.length
  rw [List.append_nil, List.append_nil] at hread
  exact hread (Nat.le_refl _)

end Lexes

theorem closed_mark {b : UInt8} (h : b = ascii ',' ∨ b = ascii ']' ∨ b = ascii '\x7d')
    (rest : List UInt8) : Closed (b :: rest) := fun first hfirst => by
  cases hfirst
  exact h

/-! ### Documents from tokens -/

/-- The tokens form the document wherever a value is expected. -/
structure Forms (tokens : List Token) (document : Document) : Prop where
  begins : ∃ first rest, tokens = first :: rest ∧ first ≠ .closeArray
  value : ∀ frames more, Progress.run (.reading frames .value) (tokens ++ more) =
    Progress.run (complete document frames) more

/-- The first item of an array is a value like any other. -/
theorem Forms.item {tokens : List Token} {document : Document} (h : Forms tokens document)
    (frames : List Frame) (more : List Token) :
    Progress.run (.reading (.array [] :: frames) .itemOrEnd) (tokens ++ more) =
      Progress.run (complete document (.array [] :: frames)) more := by
  obtain ⟨⟨first, rest, rfl, hfirst⟩, hvalue⟩ := h
  rw [← hvalue]
  cases first <;> first | rfl | exact absurd rfl hfirst

/-- Wherever the text stands for a value, it is read as the document. -/
def Stands (text : List UInt8) (document : Document) : Prop :=
  ∃ tokens, LexesAs text tokens ∧ Forms tokens document

theorem parse?_of_stands {text : List UInt8} {document : Document} (h : Stands text document) :
    Document.parse? text = some document := by
  obtain ⟨tokens, hlexes, hforms⟩ := h
  have hrun := hforms.value [] []
  rw [List.append_nil] at hrun
  rw [Document.parse?, tokens?_of_lexesAs hlexes, Option.bind_some, Document.ofTokens?, hrun]
  rfl

/-! ### Values of one token -/

theorem stands_of_token {b : UInt8} {text : List UInt8} {token : Token} {document : Document}
    (hblank : isBlank b = false)
    (htoken : ∀ rest, Closed rest → readToken b (text ++ rest) = some (token, rest))
    (hbegins : ∀ frames, beginValue frames token = some (complete document frames)) :
    Stands (b :: text) document := by
  refine ⟨[token], ?_, ⟨⟨token, [], rfl, ?_⟩, ?_⟩⟩
  · intro rest more hrest hmore
    refine Lexes.cons hblank (htoken rest hrest) ?_ hmore
    show rest.length ≤ (text ++ rest).length
    rw [List.length_append]
    exact Nat.le_add_left _ _
  · rintro rfl
    cases hbegins []
  · intro frames more
    show (beginValue frames token).bind _ = _
    rw [hbegins]
    rfl

theorem stands_null : Stands (textBytes Json.null.render) .null := by
  show Stands (ascii 'n' :: "ull".toList.map ascii) .null
  exact stands_of_token rfl (fun _ _ => rfl) fun _ => rfl

theorem stands_boolean (b : Bool) : Stands (textBytes (Json.boolean b).render) (.boolean b) := by
  cases b with
  | true =>
      show Stands (ascii 't' :: "rue".toList.map ascii) _
      exact stands_of_token rfl (fun _ _ => rfl) fun _ => rfl
  | false =>
      show Stands (ascii 'f' :: "alse".toList.map ascii) _
      exact stands_of_token rfl (fun _ _ => rfl) fun _ => rfl

theorem stands_string (s : String) :
    Stands (textBytes (Json.string s).render) (.string (some s)) := by
  have hbegins (frames : List Frame) : beginValue frames (.string (s.toList.flatMap charPieces)) =
      some (complete (.string (some s)) frames) := by
    rw [beginValue, spelled?_flatMap]
  rw [render, textBytes_renderString]
  refine stands_of_token rfl (fun rest _ => ?_) hbegins
  rw [List.append_assoc]
  show (readString _).map _ = _
  rw [List.singleton_append, readString_render]
  rfl

/-! ### Numbers -/

/-- A sign or a digit begins a number. -/
theorem readToken_number {b : UInt8} (h : b = ascii '-' ∨ isDigit b = true) (rest : List UInt8) :
    isBlank b = false ∧
      readToken b rest = (readNumeral (b :: rest)).map fun (n, rest) => (.number n, rest) := by
  rcases h with rfl | hdigit
  · exact ⟨rfl, rfl⟩
  · have hne (c : Char) (hc : isDigit (ascii c) = false) : b ≠ ascii c := by
      rintro rfl
      rw [hdigit] at hc
      cases hc
    refine ⟨?_, ?_⟩
    · simp only [isBlank, Bool.or_eq_false_iff, decide_eq_false_iff_not]
      exact ⟨⟨⟨hne ' ' rfl, hne '\n' rfl⟩, hne '\t' rfl⟩, hne '\r' rfl⟩
    · rw [readToken, if_neg (hne '[' rfl), if_neg (hne ']' rfl), if_neg (hne '\x7b' rfl),
        if_neg (hne '\x7d' rfl), if_neg (hne ',' rfl), if_neg (hne ':' rfl), if_neg (hne '"' rfl),
        if_neg (hne 'n' rfl), if_neg (hne 't' rfl), if_neg (hne 'f' rfl)]

/-- The text of a number stands for what the number is. -/
theorem stands_numeral {n : Numeral} (h : n.WellFormed) :
    Stands (textBytes n.toText) (.ofNumeral n) := by
  have hfirst : ∃ b text, textBytes n.toText = b :: text ∧ (b = ascii '-' ∨ isDigit b = true) := by
    obtain ⟨b, more, hdigits, hdigit, _⟩ := exists_cons_digits h.whole_lt h.whole_ne_nil
      (fractionBytes n.fraction ++ powerBytes n.power)
    rw [textBytes_toText h, hdigits]
    cases n.negative with
    | true => exact ⟨_, _, rfl, .inl rfl⟩
    | false => exact ⟨_, _, rfl, .inr hdigit⟩
  obtain ⟨b, text, htext, hb⟩ := hfirst
  have hbegins (frames : List Frame) : beginValue frames (.number n) =
      some (complete (.ofNumeral n) frames) := rfl
  have hread (rest : List UInt8) (hrest : Closed rest) :
      readNumeral (b :: text ++ rest) = some (n, rest) := by
    rw [← htext]
    exact readNumeral_toText h hrest
  rw [htext]
  refine stands_of_token (readToken_number hb text).1 (fun rest hrest => ?_) hbegins
  rw [(readToken_number hb _).2]
  exact congrArg (Option.map _) (hread rest hrest)

theorem stands_integer (n : Integer) :
    Stands (textBytes (Json.integer n).render) (.integer n) := by
  have hstands := stands_numeral (Numeral.wellFormed_ofInteger n)
  rw [Document.ofNumeral, Numeral.integer?_ofInteger, Numeral.toText_ofInteger] at hstands
  exact hstands

theorem stands_float (x : Binary64.Finite) :
    Stands (textBytes (Json.float x).render) (.float (some x.reread)) := by
  have hstands := stands_numeral (Numeral.wellFormed_ofFloat x)
  rw [Document.ofNumeral, Numeral.integer?_ofFloat, x.float?_ofFloat] at hstands
  exact hstands

/-! ### Parts of a container -/

section Parts

variable {α β : Type}

/-- The text is read behind a comma, and the open container takes a part for
it. -/
def Joins (opened : List β → Frame) (text : List UInt8) (part : β) : Prop :=
  ∃ tokens, LexesAs text tokens ∧ ∀ frames done more,
    Progress.run (.reading (opened done :: frames) .separator) (.comma :: (tokens ++ more)) =
      Progress.run (.reading (opened (part :: done) :: frames) .separator) more

/-- Texts behind a comma each, and the parts that the open container takes for
them. -/
def JoinsAll (opened : List β → Frame) (texts : List String) (parts : List β) : Prop :=
  ∃ tokens, LexesAs (texts.flatMap fun text => ascii ',' :: textBytes text) tokens ∧
    ∀ frames done more,
      Progress.run (.reading (opened done :: frames) .separator) (tokens ++ more) =
        Progress.run (.reading (opened (parts.reverse ++ done) :: frames) .separator) more

/-- What follows a part can follow a value: it is a comma or the end. -/
theorem closed_flatMap (texts : List String) (rest : List UInt8) (hrest : Closed rest) :
    Closed ((texts.flatMap fun text => ascii ',' :: textBytes text) ++ rest) := by
  cases texts with
  | nil => exact hrest
  | cons text others => exact closed_mark (.inl rfl) _

theorem joinsAll_map {opened : List β → Frame} {text : α → String} {part : α → β} {items : List α}
    (h : ∀ item ∈ items, Joins opened (textBytes (text item)) (part item)) :
    JoinsAll opened (items.map text) (items.map part) := by
  induction items with
  | nil => exact ⟨[], lexesAs_nil, fun _ _ _ => rfl⟩
  | cons item rest ih =>
      obtain ⟨⟨tokens, hlexes, hrun⟩, hrest⟩ := List.forall_mem_cons.mp h
      obtain ⟨others, hothers, hruns⟩ := ih hrest
      refine ⟨.comma :: (tokens ++ others), ?_, fun frames done more => ?_⟩
      · exact (hlexes.append hothers (closed_flatMap (rest.map text))).mark rfl fun _ => rfl
      · rw [List.cons_append, List.append_assoc, hrun, List.map_cons, hruns, List.reverse_cons,
          List.append_assoc]
        rfl

/-- Texts between commas: the first, and the others each behind a comma. -/
theorem textBytes_intercalate (first : String) (others : List String) :
    textBytes (",".intercalate (first :: others)) =
      textBytes first ++ others.flatMap fun text => ascii ',' :: textBytes text := by
  induction others generalizing first with
  | nil => simp [textBytes_eq]
  | cons second others ih =>
      have hmore := ih second
      simp only [textBytes_eq, String.toList_intercalate, List.map_cons,
        List.intercalate_cons_cons, encode_append] at hmore ⊢
      rw [hmore, List.append_assoc]
      rfl

/-- The tokens between the brackets of a container. -/
theorem lexesAs_intercalate {first : String} {others : List String} {tokens more : List Token}
    {b : UInt8} {token : Token} (hfirst : LexesAs (textBytes first) tokens)
    (hothers : LexesAs (others.flatMap fun text => ascii ',' :: textBytes text) more)
    (hclosed : ∀ rest, Closed (b :: rest)) (hend : LexesAs [b] [token]) :
    LexesAs (textBytes (",".intercalate (first :: others)) ++ [b]) (tokens ++ (more ++ [token])) := by
  rw [textBytes_intercalate, List.append_assoc]
  refine hfirst.append (hothers.append hend fun rest _ => hclosed rest) fun rest _ => ?_
  rw [List.append_assoc]
  exact closed_flatMap others _ (hclosed rest)

end Parts

/-! ### Arrays -/

theorem renderItems_eq_map (items : List Json) : renderItems items = items.map render := by
  induction items with
  | nil => rfl
  | cons item rest ih => rw [renderItems, ih, List.map_cons]

theorem stands_array {document : Json → Document} {items : List Json}
    (h : ∀ item ∈ items, Stands (textBytes item.render) (document item)) :
    Stands (textBytes (Json.array items).render) (.array (items.map document)) := by
  have htext : textBytes (Json.array items).render =
      ascii '[' :: (textBytes (",".intercalate (items.map render)) ++ [ascii ']']) := by
    simp only [textBytes_eq, render, renderItems_eq_map, String.toList_append, encode_append]
    rfl
  have hend : LexesAs [ascii ']'] [.closeArray] := lexesAs_nil.mark rfl fun _ => rfl
  rw [htext]
  cases items with
  | nil =>
      exact ⟨[.openArray, .closeArray], hend.mark rfl fun _ => rfl,
        ⟨⟨_, _, rfl, nofun⟩, fun _ _ => rfl⟩⟩
  | cons first rest =>
      obtain ⟨⟨tokens, hlexes, hforms⟩, hrest⟩ := List.forall_mem_cons.mp h
      have hitems : ∀ item ∈ rest, Joins .array (textBytes item.render) (document item) := by
        intro item hmem
        obtain ⟨tokens, hlexes, hforms⟩ := hrest item hmem
        exact ⟨tokens, hlexes, fun frames done more => hforms.value (.array done :: frames) more⟩
      obtain ⟨others, hothers, hruns⟩ := joinsAll_map hitems
      refine ⟨.openArray :: (tokens ++ (others ++ [.closeArray])), ?_,
        ⟨⟨_, _, rfl, nofun⟩, fun frames more => ?_⟩⟩
      · exact (lexesAs_intercalate hlexes hothers (closed_mark (.inr (.inl rfl))) hend).mark rfl
          fun _ => rfl
      · have hfirst := hforms.item frames (others ++ ([.closeArray] ++ more))
        have hothers := hruns frames [document first] ([.closeArray] ++ more)
        rw [List.cons_append, List.append_assoc, List.append_assoc]
        refine (hfirst.trans hothers).trans ?_
        show Progress.run (complete
          (.array ((rest.map document).reverse ++ [document first]).reverse) frames) more = _
        rw [List.reverse_append, List.reverse_reverse]
        rfl

/-! ### Objects -/

/-- The text of a member, as an object holds it. -/
def renderMember (member : String × Json) : String :=
  renderString member.1 ++ ":" ++ member.2.render

theorem renderMembers_eq_map (members : List (String × Json)) :
    renderMembers members = members.map renderMember := by
  induction members with
  | nil => rfl
  | cons member rest ih =>
      rw [renderMembers, ih, List.map_cons]
      rfl

/-- The tokens form the member wherever a name is expected, be it the first or
not. -/
structure FormsMember (tokens : List Token) (document : Option String × Document) : Prop where
  member : ∀ frames done more, Progress.run (.reading frames (.name done)) (tokens ++ more) =
    Progress.run (.reading (.object (document :: done) none :: frames) .separator) more
  first : ∀ frames more, Progress.run (.reading frames .nameOrEnd) (tokens ++ more) =
    Progress.run (.reading (.object [document] none :: frames) .separator) more

theorem exists_member {member : String × Json} {document : Document}
    (h : Stands (textBytes member.2.render) document) :
    ∃ tokens, LexesAs (textBytes (renderMember member)) tokens ∧
      FormsMember tokens (some member.1, document) := by
  obtain ⟨tokens, hlexes, hforms⟩ := h
  let pieces := member.1.toList.flatMap charPieces
  have htext : textBytes (renderMember member) = ascii '"' :: (encode (member.1.toList.flatMap
      fun c => (renderChar c).toList) ++ ascii '"' :: ascii ':' :: textBytes member.2.render) := by
    have hname := textBytes_renderString member.1
    rw [textBytes_eq] at hname
    simp only [textBytes_eq, renderMember, String.toList_append, encode_append, hname,
      List.cons_append, List.append_assoc]
    rfl
  have hmember (frames : List Frame) (done : List (Option String × Document)) (more : List Token) :
      Progress.run (.reading (.object done (spelled? pieces) :: frames) .value) (tokens ++ more) =
        Progress.run (.reading (.object ((some member.1, document) :: done) none :: frames)
          .separator) more := by
    rw [hforms.value, spelled?_flatMap]
    rfl
  refine ⟨.string pieces :: .colon :: tokens, ?_, ⟨hmember, fun frames => hmember frames []⟩⟩
  intro rest more hrest hmore
  have hcolon : LexesAs (ascii ':' :: textBytes member.2.render) (.colon :: tokens) :=
    hlexes.mark rfl fun _ => rfl
  rw [htext, List.cons_append, List.append_assoc]
  refine Lexes.cons rfl ?_ ?_ (hcolon rest more hrest hmore)
  · show (readString _).map _ = _
    rw [List.cons_append, readString_render]
    rfl
  · simp only [List.length_append, List.length_cons]
    omega

theorem stands_object (document : Json → Document) {members : List (String × Json)}
    (h : ∀ member ∈ members, Stands (textBytes member.2.render) (document member.2)) :
    Stands (textBytes (Json.object members).render)
      (.object (members.map fun member => (some member.1, document member.2))) := by
  have htext : textBytes (Json.object members).render =
      ascii '\x7b' :: (textBytes (",".intercalate (members.map renderMember)) ++ [ascii '\x7d']) := by
    simp only [textBytes_eq, render, renderMembers_eq_map, String.toList_append, encode_append]
    rfl
  have hend : LexesAs [ascii '\x7d'] [.closeObject] := lexesAs_nil.mark rfl fun _ => rfl
  rw [htext]
  cases members with
  | nil =>
      exact ⟨[.openObject, .closeObject], hend.mark rfl fun _ => rfl,
        ⟨⟨_, _, rfl, nofun⟩, fun _ _ => rfl⟩⟩
  | cons first rest =>
      obtain ⟨hfirst, hrest⟩ := List.forall_mem_cons.mp h
      obtain ⟨tokens, hlexes, hforms⟩ := exists_member hfirst
      have hmembers : ∀ member ∈ rest, Joins (.object · none) (textBytes (renderMember member))
          (some member.1, document member.2) := by
        intro member hmem
        obtain ⟨tokens, hlexes, hforms⟩ := exists_member (hrest member hmem)
        exact ⟨tokens, hlexes, hforms.member⟩
      obtain ⟨others, hothers, hjoins⟩ := joinsAll_map hmembers
      refine ⟨.openObject :: (tokens ++ (others ++ [.closeObject])), ?_,
        ⟨⟨_, _, rfl, nofun⟩, fun frames more => ?_⟩⟩
      · exact (lexesAs_intercalate hlexes hothers (closed_mark (.inr (.inr rfl))) hend).mark rfl
          fun _ => rfl
      · have hfirst := hforms.first frames (others ++ ([.closeObject] ++ more))
        have hothers := hjoins frames [(some first.1, document first.2)] ([.closeObject] ++ more)
        rw [List.cons_append, List.append_assoc, List.append_assoc]
        refine (hfirst.trans hothers).trans ?_
        show Progress.run (complete (.object ((rest.map fun member =>
          (some member.1, document member.2)).reverse ++
            [(some first.1, document first.2)]).reverse) frames) more = _
        rw [List.reverse_append, List.reverse_reverse]
        rfl

/-! ### Values -/

/-- Wherever the text of a value stands, it is read as the document of the value,
with each float read as its text is. -/
theorem stands_render (value : Json) :
    Stands (textBytes value.render) (value.mapFloats reread).toDocument := by
  induction value using induction with
  | null =>
      rw [mapFloats]
      exact stands_null
  | boolean b =>
      rw [mapFloats]
      exact stands_boolean b
  | integer n =>
      rw [mapFloats]
      exact stands_integer n
  | float x =>
      rw [mapFloats]
      exact stands_float x
  | string s =>
      rw [mapFloats]
      exact stands_string s
  | array items ih =>
      rw [mapFloats, toDocument, itemsToDocument_eq_map, List.map_map]
      exact stands_array ih
  | object members ih =>
      rw [mapFloats, toDocument, membersToDocument_eq_map, List.map_map]
      exact stands_object (fun value => (value.mapFloats reread).toDocument) ih

/-- The document of a value repeats no name. -/
theorem Canonical.distinct_toDocument {value : Json} (h : value.Canonical) :
    value.toDocument.Distinct := by
  induction h with
  | null => exact .null
  | boolean b => exact .boolean b
  | integer n => exact .integer n
  | float x => exact .float (some x)
  | string s => exact .string (some s)
  | array _ ih =>
      rw [toDocument, itemsToDocument_eq_map]
      exact .array (List.forall_mem_map.mpr ih)
  | object hascending _ ih =>
      rw [toDocument, membersToDocument_eq_map]
      refine .object ?_ (List.forall_mem_map.mpr ih)
      have hnodup := hascending.nodup_keys.map (Option.some_injective String)
      rwa [List.map_map] at hnodup ⊢

/-- The text of a value writes it, with each float read as its text is. -/
theorem writes_render {value : Json} (h : value.Canonical) (hdepth : value.depth ≤ maxNesting) :
    Writes (textBytes value.render) (value.mapFloats reread) :=
  ⟨_, parse?_of_stands (stands_render value), h.mapFloats.distinct_toDocument,
    toJson?_toDocument _ maxNesting h.mapFloats (depth_mapFloats_le hdepth)⟩

end FeatureFlags.Json
