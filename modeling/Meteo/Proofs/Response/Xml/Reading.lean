/-
# Meteo.Proofs.Response.Xml.Reading -- documents read back

A document with an element is read as the tree of this element (`read_document`).

A reader outside of tags that has taken up what stands in front of an element takes up the
element (`run_render`): it stands behind the name and then behind each attribute
(`run_start`), in the same way each time (`Reader.Stands`), and what is inside the element
is taken up before its end (`run_end`).  Elements on lines of their own are taken up one
after the other, each behind the end of a line (`run_renderAll`).
-/
import Meteo.Proofs.Response.Xml.Characters
import Meteo.Proofs.Table

namespace Meteo.Response.Xml

set_option autoImplicit false

/-! ## Parts of tags -/

theorem isSpace_of_isNameChar {c : Char} (part : isNameChar c) : isSpace c = false := by
  rw [Bool.eq_false_iff]
  intro space
  simp only [isSpace, Bool.or_eq_true, decide_eq_true_eq] at space
  rcases space with ((rfl | rfl) | rfl) | rfl <;> revert part <;> decide

/-- Of the characters that have a meaning in tags none is part of a name. -/
theorem ne_of_isNameChar {c d : Char} (part : isNameChar c) (meant : d ∈ ['>', '/', '=']) :
    c ≠ d := by
  rintro rfl
  simp only [List.mem_cons, List.not_mem_nil, or_false] at meant
  rcases meant with rfl | rfl | rfl <;> revert part <;> decide

theorem endsName_of_isNameChar {c : Char} (part : isNameChar c) : Reader.endsName c = false := by
  rw [Reader.endsName, isSpace_of_isNameChar part, Bool.or_false,
    decide_eq_false (ne_of_isNameChar part (by simp)),
    decide_eq_false (ne_of_isNameChar part (by simp)), Bool.or_false]

/-- A name has characters, and all of them may occur in names. -/
theorem exists_cons_of_isName {cs : List Char} (named : isName cs) :
    ∃ c rest, cs = c :: rest ∧ isNameChar c ∧ ∀ d ∈ rest, isNameChar d := by
  cases cs with
  | nil => cases named
  | cons c rest =>
      rw [isName, Bool.and_eq_true] at named
      exact ⟨c, rest, rfl, by rw [isNameChar, named.1, Bool.true_or], List.all_eq_true.1 named.2⟩

/-- Attributes that can be written: their names are names, and none occurs twice. -/
structure Proper (attributes : List (String × String)) : Prop where
  names : ∀ a ∈ attributes, isName a.1.toList
  distinct : (attributes.map Prod.fst).Nodup

namespace Reader

variable {stack : List (Tag × List Node)} {root : Option Node}

theorem run_cons (r : Reader) (c : Char) (cs : List Char) :
    r.run (c :: cs) = (r.step c).bind fun r => r.run cs := List.foldlM_cons

theorem run_append (r : Reader) (cs cs' : List Char) :
    r.run (cs ++ cs') = (r.run cs).bind fun r => r.run cs' := List.foldlM_append

theorem run_singleton (r : Reader) (c : Char) : r.run [c] = r.step c :=
  (run_cons r c []).trans (Option.bind_fun_some _)

/-- A reader that has taken a character goes on from there. -/
theorem run_cons_of {r r' : Reader} {c : Char} (taken : r.step c = some r') (cs : List Char) :
    r.run (c :: cs) = r'.run cs := by
  rw [run_cons, taken, Option.bind_some]

/-- A reader that has taken some characters goes on from there. -/
theorem run_append_of {r r' : Reader} {cs : List Char} (taken : r.run cs = some r')
    (cs' : List Char) : r.run (cs ++ cs') = r'.run cs' := by
  rw [run_append, taken, Option.bind_some]

/-- Where a reader collects characters it collects all of them. -/
theorem run_collect (place : List Char → Place) {cs : List Char}
    (each : ∀ raw, ∀ c ∈ cs,
      step ⟨place raw, stack, root⟩ c = some ⟨place (raw ++ [c]), stack, root⟩)
    (raw : List Char) :
    run ⟨place raw, stack, root⟩ cs = some ⟨place (raw ++ cs), stack, root⟩ := by
  induction cs generalizing raw with
  | nil => rw [List.append_nil]; rfl
  | cons c cs ih =>
      rw [run_cons_of (each raw c List.mem_cons_self),
        ih (fun raw c later => each raw c (List.mem_cons_of_mem _ later)), List.append_assoc]
      rfl

theorem run_content {cs : List Char} (text : ∀ c ∈ cs, c ≠ '<') (raw : List Char) :
    run ⟨.content raw, stack, root⟩ cs = some ⟨.content (raw ++ cs), stack, root⟩ :=
  run_collect Place.content (fun _ c member => if_neg (text c member)) raw

theorem run_startName {cs : List Char} (named : isName cs) :
    run ⟨.bracket, stack, root⟩ cs = some ⟨.startName cs, stack, root⟩ := by
  obtain ⟨c, rest, rfl, first, others⟩ := exists_cons_of_isName named
  have begins : step ⟨.bracket, stack, root⟩ c = some ⟨.startName [c], stack, root⟩ :=
    congrArg (fun place => some (Reader.mk place stack root))
      (if_neg (ne_of_isNameChar first (by simp)))
  rw [run_cons_of begins]
  exact run_collect Place.startName
    (fun _ d member => if_pos (by rw [endsName_of_isNameChar (others d member)]; rfl)) [c]

theorem run_attributeName {cs : List Char} (named : isName cs) (tag : Tag) :
    run ⟨.space tag, stack, root⟩ cs = some ⟨.attributeName tag cs, stack, root⟩ := by
  obtain ⟨c, rest, rfl, first, others⟩ := exists_cons_of_isName named
  have begins : step ⟨.space tag, stack, root⟩ c = some ⟨.attributeName tag [c], stack, root⟩ :=
    if_neg (Bool.eq_false_iff.1 (endsName_of_isNameChar first))
  rw [run_cons_of begins]
  exact run_collect (Place.attributeName tag) (fun _ d member =>
    (if_neg (ne_of_isNameChar (others d member) (by simp))).trans
      (if_neg (Bool.eq_false_iff.1 (isSpace_of_isNameChar (others d member))))) [c]

theorem run_value {cs : List Char} {quote : Char} (inside : ∀ c ∈ cs, c ≠ quote) (tag : Tag)
    (name raw : List Char) :
    run ⟨.value tag name quote raw, stack, root⟩ cs =
      some ⟨.value tag name quote (raw ++ cs), stack, root⟩ :=
  run_collect (Place.value tag name quote) (fun _ c member => if_neg (inside c member)) raw

theorem run_endName {cs : List Char} (named : isName cs) :
    run ⟨.endName [], stack, root⟩ cs = some ⟨.endName cs, stack, root⟩ := by
  obtain ⟨c, rest, rfl, first, others⟩ := exists_cons_of_isName named
  have part : ∀ d ∈ c :: rest, isNameChar d := List.forall_mem_cons.2 ⟨first, others⟩
  exact run_collect Place.endName (fun _ d member =>
    (if_neg (ne_of_isNameChar (part d member) (by simp))).trans
      (if_neg (Bool.eq_false_iff.1 (isSpace_of_isNameChar (part d member))))) []

/-! ## Tags -/

/-- Whether a reader stands behind the name of an element or an attribute of it. -/
def Stands (r : Reader) (tag : Tag) : Prop := ∀ c, endsName c → r.step c = r.proceed tag c

/-- The attributes of a tag are read one after the other. -/
theorem run_attribute {r : Reader} {tag : Tag} (stands : r.Stands tag) {name : String}
    (named : isName name.toList) (new : tag.attributes.contains name = false) (value : String) :
    r.run (" " ++ name ++ "=\"" ++ escapeAttribute value ++ "\"").toList =
      some { r with
        place := .part { tag with attributes := tag.attributes.insert name value } } := by
  have chars : (" " ++ name ++ "=\"" ++ escapeAttribute value ++ "\"").toList =
      ' ' :: (name.toList ++ ('=' :: '"' :: ((escapeAttribute value).toList ++ ['"']))) := by
    simp [String.toList_append]
  have quoted : ∀ c ∈ (escapeAttribute value).toList, c ≠ '"' := fun c member =>
    (ne_of_mem_escapeAttribute member).2
  have added : tag.add name.toList value =
      some { tag with attributes := tag.attributes.insert name value } := by
    rw [Tag.add, String.ofList_toList, named, new]
    rfl
  have blank : r.step ' ' = some ⟨.space tag, r.stack, r.root⟩ := stands ' ' rfl
  have equals : step ⟨.attributeName tag name.toList, r.stack, r.root⟩ '=' =
      some ⟨.quote tag name.toList, r.stack, r.root⟩ := rfl
  have opens : step ⟨.quote tag name.toList, r.stack, r.root⟩ '"' =
      some ⟨.value tag name.toList '"' [], r.stack, r.root⟩ := rfl
  have ends : ∀ raw, raw = (escapeAttribute value).toList →
      step ⟨.value tag name.toList '"' raw, r.stack, r.root⟩ '"' = some { r with
        place := .part { tag with attributes := tag.attributes.insert name value } } := by
    rintro raw rfl
    simp only [step, if_pos, value?_escapeAttribute, added, Option.bind_eq_bind, Option.bind_some]
    rfl
  rw [chars, run_cons_of blank, run_append_of (run_attributeName named tag), run_cons_of equals,
    run_cons_of opens, run_append_of (run_value quoted tag _ []), run_singleton]
  exact ends _ (List.nil_append _)

theorem run_attributes {attributes : List (String × String)} {r : Reader} {tag : Tag}
    (stands : r.Stands tag) (named : ∀ a ∈ attributes, isName a.1.toList)
    (distinct : (tag.attributes.names ++ attributes.map Prod.fst).Nodup) :
    ∃ place, r.run (attributesText attributes).toList = some { r with place } ∧
      ({ r with place } : Reader).Stands
        { tag with attributes := tag.attributes.insertAll attributes } := by
  induction attributes generalizing r tag with
  | nil => exact ⟨r.place, rfl, stands⟩
  | cons a attributes ih =>
      obtain ⟨name, value⟩ := a
      have absent : name ∉ tag.attributes.names := fun present =>
        (List.nodup_append.1 distinct).2.2 name present name (by simp) rfl
      have new : tag.attributes.contains name = false := by
        rw [Bool.eq_false_iff, Ne, Table.contains, List.contains_iff_mem]
        exact absent
      have names : (tag.attributes.insert name value).names = tag.attributes.names ++ [name] := by
        rw [Table.names, Table.entries_insert_of_not_mem absent, List.map_append]
        rfl
      have first := run_attribute stands (named _ List.mem_cons_self) new value
      obtain ⟨place, rest, stands'⟩ := @ih { r with place := .part { tag with
          attributes := tag.attributes.insert name value } } _ (fun _ _ => rfl)
        (fun a later => named a (List.mem_cons_of_mem _ later))
        (by rw [names, List.append_assoc]; exact distinct)
      refine ⟨place, ?_, stands'⟩
      have chars : attributesText ((name, value) :: attributes) =
          (" " ++ name ++ "=\"" ++ escapeAttribute value ++ "\"") ++ attributesText attributes := by
        rw [attributesText, List.map_cons, String.join_cons]
        rfl
      rw [chars, String.toList_append, run_append_of first]
      exact rest

/-- The name of an element and its attributes are read. -/
theorem run_start {tag : String} {attributes : List (String × String)}
    (tagged : isName tag.toList) (proper : Proper attributes) :
    ∃ place, run ⟨.bracket, stack, root⟩ (tag ++ attributesText attributes).toList =
        some ⟨place, stack, root⟩ ∧
      Stands ⟨place, stack, root⟩ ⟨tag, .ofList attributes⟩ := by
  have stands : Stands ⟨.startName tag.toList, stack, root⟩ ⟨tag, .empty⟩ := by
    intro c ends
    simp only [step, ends, tagged, Bool.not_true, Bool.false_eq_true, if_false, if_true,
      String.ofList_toList]
  obtain ⟨place, rest, stands'⟩ := run_attributes stands proper.names proper.distinct
  refine ⟨place, ?_, stands'⟩
  rw [String.toList_append, run_append_of (run_startName tagged)]
  exact rest

end Reader

/-! ## Trees -/

/-- The names in a tree can be written, and no attribute occurs twice. -/
inductive Named : Xml → Prop
  | element {tag : String} {attributes : List (String × String)} {text : String}
      {children : List Xml} (tagged : isName tag.toList) (proper : Proper attributes)
      (inside : ∀ child ∈ children, Named child) : Named (.element tag attributes text children)

mutual

/-- What a document contains where an element stands so far inside others. -/
def toNode (depth : Nat) : Xml → Node
  | element tag attributes text children =>
      .element tag (.ofList attributes) <|
        match children with
        | [] => if text.isEmpty then [] else [.text text]
        | child :: rest => nodesOf (depth + 1) (child :: rest) ++ [.text (newline depth)]

/-- What a document contains where elements stand on lines of their own. -/
def nodesOf (depth : Nat) : List Xml → List Node
  | [] => []
  | child :: rest => .text (newline depth) :: toNode depth child :: nodesOf depth rest

end

theorem eq_of_mem_newline {depth : Nat} {c : Char} (member : c ∈ (newline depth).toList) :
    c = '\n' ∨ c = ' ' := by
  rw [newline, String.toList_append, List.mem_append] at member
  rcases member with first | blank
  · exact .inl (List.mem_singleton.1 first)
  · rw [String.toList_ofList] at blank
    exact .inr (List.eq_of_mem_replicate blank)

theorem newline_ne_nil (depth : Nat) : (newline depth).toList ≠ [] := by simp [newline]

theorem ne_of_mem_newline {depth : Nat} (c : Char) (member : c ∈ (newline depth).toList) :
    c ≠ '<' := by
  rcases eq_of_mem_newline member with rfl | rfl <;> decide

theorem text?_newline (depth : Nat) : text? (newline depth).toList = some (newline depth) := by
  have plain : escapeText (newline depth) = newline depth := by
    rw [escapeText]
    have each : ∀ c ∈ (newline depth).toList, escapeChar c = [c] := by
      intro c member
      rcases eq_of_mem_newline member with rfl | rfl <;> rfl
    rw [List.flatMap_congr each, List.flatMap_singleton', String.ofList_toList]
  have read := text?_escapeText (newline depth)
  rwa [plain] at read

namespace Reader

variable {stack : List (Tag × List Node)} {root : Option Node}

/-- What is taken up does not depend on where the reader stands. -/
theorem add_place (r : Reader) (place : Place) (n : Node) : { r with place }.add n = r.add n := by
  obtain ⟨-, stack, -⟩ := r
  cases stack <;> rfl

theorem step_bracket {r r' : Reader} {raw : List Char} (place : r.place = .content raw)
    (flushed : r.flush raw = some r') : r.step '<' = some { r' with place := .bracket } := by
  simp only [step, place, flushed, if_true]
  rfl

theorem flush_inside {tag : Tag} {nodes : List Node} {place : Place} {raw : List Char} {s : String}
    (some' : raw ≠ []) (text : text? raw = some s) :
    flush ⟨place, (tag, nodes) :: stack, root⟩ raw =
      some ⟨.content [], (tag, nodes ++ [.text s]) :: stack, root⟩ := by
  have filled : raw.isEmpty = false := by
    rw [Bool.eq_false_iff, Ne, List.isEmpty_iff]
    exact some'
  rw [flush, filled, text]
  rfl

section Ends

variable {tag : String} (tagged : isName tag.toList)

include tagged

/-- An element with attributes and with something inside begins. -/
theorem run_open {attributes : List (String × String)} (proper : Proper attributes)
    {r r' : Reader} {raw : List Char} (place : r.place = .content raw)
    (flushed : r.flush raw = some r') :
    r.run ("<" ++ tag ++ attributesText attributes ++ ">").toList =
      some ⟨.content [], (⟨tag, .ofList attributes⟩, []) :: r'.stack, r'.root⟩ := by
  obtain ⟨stands, start, behind⟩ := @run_start r'.stack r'.root tag attributes tagged proper
  have chars : ("<" ++ tag ++ attributesText attributes ++ ">").toList =
      '<' :: ((tag ++ attributesText attributes).toList ++ ['>']) := by
    simp [String.toList_append]
  rw [chars, run_cons_of (step_bracket place flushed), run_append_of start, run_singleton]
  exact behind '>' rfl

/-- An element with attributes and nothing inside is taken up. -/
theorem run_empty {attributes : List (String × String)} (proper : Proper attributes)
    {r r' : Reader} {raw : List Char} (place : r.place = .content raw)
    (flushed : r.flush raw = some r') :
    r.run ("<" ++ tag ++ attributesText attributes ++ " />").toList =
      r'.add (.element tag (.ofList attributes) []) := by
  obtain ⟨stands, start, behind⟩ := @run_start r'.stack r'.root tag attributes tagged proper
  have chars : ("<" ++ tag ++ attributesText attributes ++ " />").toList =
      '<' :: ((tag ++ attributesText attributes).toList ++ [' ', '/', '>']) := by
    simp [String.toList_append]
  have blank : step ⟨stands, r'.stack, r'.root⟩ ' ' =
      some ⟨.space ⟨tag, .ofList attributes⟩, r'.stack, r'.root⟩ := behind ' ' rfl
  have slash : step ⟨.space ⟨tag, .ofList attributes⟩, r'.stack, r'.root⟩ '/' =
      some ⟨.slash ⟨tag, .ofList attributes⟩, r'.stack, r'.root⟩ := rfl
  rw [chars, run_cons_of (step_bracket place flushed), run_append_of start, run_cons_of blank,
    run_cons_of slash, run_singleton]
  exact add_place r' _ _

/-- Behind a text an element ends. -/
theorem run_end {attributes : Table String} {nodes : List Node} {written text : String}
    (some' : written.toList ≠ []) (inner : ∀ c ∈ written.toList, c ≠ '<')
    (read : text? written.toList = some text) :
    run ⟨.content [], (⟨tag, attributes⟩, nodes) :: stack, root⟩
        (written ++ ("</" ++ tag ++ ">")).toList =
      add ⟨.content [], stack, root⟩ (.element tag attributes (nodes ++ [.text text])) := by
  have chars : (written ++ ("</" ++ tag ++ ">")).toList =
      written.toList ++ '<' :: '/' :: (tag.toList ++ ['>']) := by
    simp [String.toList_append]
  have slash : step ⟨.bracket, (⟨tag, attributes⟩, nodes ++ [.text text]) :: stack, root⟩ '/' =
      some ⟨.endName [], (⟨tag, attributes⟩, nodes ++ [.text text]) :: stack, root⟩ := rfl
  have ends :
      step ⟨.endName tag.toList, (⟨tag, attributes⟩, nodes ++ [.text text]) :: stack, root⟩ '>' =
        add ⟨.content [], stack, root⟩ (.element tag attributes (nodes ++ [.text text])) := by
    simp only [step, close, if_true]
    exact add_place ⟨.content [], stack, root⟩ _ _
  rw [chars, run_append_of (run_content inner []), List.nil_append,
    run_cons_of (step_bracket rfl (flush_inside some' read)), run_cons_of slash,
    run_append_of (run_endName tagged), run_singleton, ends]

end Ends

end Reader

theorem toList_escapeText_ne_nil {s : String} (some' : ¬s.isEmpty) :
    (escapeText s).toList ≠ [] := by
  intro none
  have read := text?_escapeText s
  rw [none] at read
  exact some' (String.isEmpty_iff.2 (Option.some.inj read).symm)

mutual

/-- An element that has been written is read and taken up. -/
theorem run_render (x : Xml) (named : Named x) (depth : Nat) {r r' : Reader} {raw : List Char}
    (place : r.place = .content raw) (flushed : r.flush raw = some r') :
    r.run (render depth x).toList = r'.add (toNode depth x) := by
  obtain ⟨tag, attributes, text, children⟩ := x
  obtain ⟨tagged, proper, inside⟩ := named
  cases children with
  | nil =>
      rw [render, toNode]
      by_cases none : text.isEmpty
      · rw [if_pos none, if_pos none]
        exact Reader.run_empty tagged proper place flushed
      · have inner : ∀ c ∈ (escapeText text).toList, c ≠ '<' := fun c member =>
          (ne_of_mem_escapeText member).1
        rw [if_neg none, if_neg none, String.append_assoc, String.toList_append,
          Reader.run_append_of (Reader.run_open tagged proper place flushed),
          Reader.run_end tagged (toList_escapeText_ne_nil none) inner (text?_escapeText text)]
        exact Reader.add_place r' _ _
  | cons child rest =>
      rw [render, toNode, String.append_assoc, String.append_assoc, String.toList_append,
        Reader.run_append_of (Reader.run_open tagged proper place flushed), String.toList_append,
        Reader.run_append_of (run_renderAll (child :: rest) inside _ _ _ _ _),
        Reader.run_end tagged (newline_ne_nil depth) ne_of_mem_newline (text?_newline depth)]
      exact Reader.add_place r' _ _

/-- Elements on lines of their own are read and taken up. -/
theorem run_renderAll (xs : List Xml) (named : ∀ x ∈ xs, Named x) (depth : Nat) (tag : Tag)
    (nodes : List Node) (stack : List (Tag × List Node)) (root : Option Node) :
    Reader.run ⟨.content [], (tag, nodes) :: stack, root⟩ (renderAll depth xs).toList =
      some ⟨.content [], (tag, nodes ++ nodesOf depth xs) :: stack, root⟩ := by
  match xs with
  | [] =>
      rw [nodesOf, List.append_nil]
      rfl
  | child :: rest =>
      have first := @run_render child (named child List.mem_cons_self) depth
        ⟨.content (newline depth).toList, (tag, nodes) :: stack, root⟩ _ _ rfl
        (Reader.flush_inside (newline_ne_nil depth) (text?_newline depth))
      have others := run_renderAll rest (fun x later => named x (List.mem_cons_of_mem _ later))
        depth tag (nodes ++ [.text (newline depth)] ++ [toNode depth child]) stack root
      rw [renderAll, String.toList_append, String.toList_append, List.append_assoc,
        Reader.run_append_of (Reader.run_content ne_of_mem_newline []), List.nil_append,
        Reader.run_append_of first, nodesOf]
      refine others.trans ?_
      rw [List.append_assoc, List.append_assoc]
      rfl

end

/-! ## Ends of lines -/

mutual

/-- A tree with the ends of the lines of its texts as line feeds. -/
def lined : Xml → Xml
  | element tag attributes text children =>
      element tag attributes (withLineFeeds text) (linedAll children)

/-- Trees with the ends of the lines of their texts as line feeds. -/
def linedAll : List Xml → List Xml
  | [] => []
  | child :: rest => lined child :: linedAll rest

end

mutual

theorem named_lined (x : Xml) (named : Named x) : Named (lined x) := by
  obtain ⟨tag, attributes, text, children⟩ := x
  obtain ⟨tagged, proper, inside⟩ := named
  exact .element tagged proper (named_linedAll children inside)

theorem named_linedAll (xs : List Xml) (named : ∀ x ∈ xs, Named x) :
    ∀ x ∈ linedAll xs, Named x := by
  match xs with
  | [] => exact named
  | child :: rest =>
      exact List.forall_mem_cons.2 ⟨named_lined child (named child List.mem_cons_self),
        named_linedAll rest fun x later => named x (List.mem_cons_of_mem _ later)⟩

end

/-- Attributes are written with these three characters around their names and values. -/
theorem all_attributesText {p : Char → Bool} (blank : p ' ') (equals : p '=') (quote : p '"')
    (attributes : List (String × String)) :
    (attributesText attributes).toList.all p =
      attributes.all fun a => a.1.toList.all p && (escapeAttribute a.2).toList.all p := by
  induction attributes with
  | nil => rfl
  | cons a attributes ih =>
      have signs : "=\"".toList.all p = true := by simp [equals, quote]
      have first : " ".toList.all p = true := by simp [blank]
      have last : "\"".toList.all p = true := by simp [quote]
      rw [attributesText] at ih ⊢
      rw [List.map_cons, String.join_cons, String.toList_append, List.all_append, ih,
        List.all_cons]
      simp only [String.toList_append, List.all_append, signs, first, last, Bool.true_and,
        Bool.and_true]

theorem return_not_mem_name {cs : List Char} (named : isName cs) : '\r' ∉ cs := by
  obtain ⟨c, rest, rfl, first, others⟩ := exists_cons_of_isName named
  have part : ∀ d ∈ c :: rest, isNameChar d := List.forall_mem_cons.2 ⟨first, others⟩
  exact fun member => absurd (part _ member) (by decide)

/-- There is no carriage return in a tag. -/
theorem return_not_mem_start {tag : String} {attributes : List (String × String)}
    (tagged : isName tag.toList) (named : ∀ a ∈ attributes, isName a.1.toList) :
    '\r' ∉ ("<" ++ tag ++ attributesText attributes).toList := by
  have inside : '\r' ∉ (attributesText attributes).toList := by
    have all : (attributesText attributes).toList.all (· != '\r') := by
      rw [all_attributesText rfl rfl rfl, List.all_eq_true]
      intro a member
      have free {cs : List Char} (none : '\r' ∉ cs) : cs.all (· != '\r') :=
        List.all_eq_true.2 fun c inside => bne_iff_ne.2 fun same => none (same ▸ inside)
      rw [free (return_not_mem_name (named a member)), free (return_not_mem_escapeAttribute a.2)]
      rfl
    exact fun member => absurd (List.all_eq_true.1 all _ member) (by decide)
  rw [String.toList_append, String.toList_append, List.mem_append, List.mem_append, not_or, not_or]
  exact ⟨⟨by decide, return_not_mem_name tagged⟩, inside⟩

theorem return_not_mem_newline {depth : Nat} : '\r' ∉ (newline depth).toList := fun member => by
  rcases eq_of_mem_newline member with same | same <;> revert same <;> decide

mutual

/-- The ends of the lines of a document are those of its texts. -/
theorem lineEnds_render (x : Xml) (named : Named x) (depth : Nat) (rest : List Char) :
    lineEnds ((render depth x).toList ++ rest) =
      (render depth (lined x)).toList ++ lineEnds rest := by
  obtain ⟨tag, attributes, text, children⟩ := x
  obtain ⟨tagged, proper, inside⟩ := named
  have start := return_not_mem_start tagged proper.names
  have stop : '\r' ∉ ("</" ++ tag ++ ">").toList := by
    rw [String.toList_append, String.toList_append, List.mem_append, List.mem_append, not_or,
      not_or]
    exact ⟨⟨by decide, return_not_mem_name tagged⟩, by decide⟩
  have bracket : '\r' ∉ ">".toList := by decide
  cases children with
  | nil =>
      rw [lined, linedAll, render, render, isEmpty_withLineFeeds]
      by_cases none : text.isEmpty
      · have all : '\r' ∉ ("<" ++ tag ++ attributesText attributes ++ " />").toList := by
          rw [String.toList_append, List.mem_append, not_or]
          exact ⟨start, by decide⟩
        rw [if_pos none, if_pos none, lineEnds_append_left all]
      · have other : (("</" ++ tag ++ ">").toList ++ rest).head? ≠ some '\n' := by
          simp [String.toList_append]
        rw [if_neg none, if_neg none]
        generalize "<" ++ tag ++ attributesText attributes = first at start
        generalize "</" ++ tag ++ ">" = last at stop other
        simp only [String.toList_append, List.append_assoc]
        rw [lineEnds_append_left start, lineEnds_append_left bracket,
          lineEnds_escapeText text other, lineEnds_append_left stop]
  | cons child others =>
      rw [lined, linedAll, render, render, ← linedAll]
      generalize "<" ++ tag ++ attributesText attributes = first at start
      generalize "</" ++ tag ++ ">" = last at stop
      simp only [String.toList_append, List.append_assoc]
      rw [lineEnds_append_left start, lineEnds_append_left bracket,
        lineEnds_renderAll (child :: others) inside, lineEnds_append_left return_not_mem_newline,
        lineEnds_append_left stop]

theorem lineEnds_renderAll (xs : List Xml) (named : ∀ x ∈ xs, Named x) (depth : Nat)
    (rest : List Char) :
    lineEnds ((renderAll depth xs).toList ++ rest) =
      (renderAll depth (linedAll xs)).toList ++ lineEnds rest := by
  match xs with
  | [] => rfl
  | child :: others =>
      have first := lineEnds_render child (named child List.mem_cons_self) depth
        ((renderAll depth others).toList ++ rest)
      have last := lineEnds_renderAll others
        (fun x later => named x (List.mem_cons_of_mem _ later)) depth rest
      rw [renderAll, linedAll, renderAll, String.toList_append, String.toList_append,
        String.toList_append, String.toList_append, List.append_assoc, List.append_assoc,
        lineEnds_append_left return_not_mem_newline, first, last, List.append_assoc,
        List.append_assoc]

end

/-! ## Allowed characters -/

mutual

/-- The strings that stand in a document of an element. -/
def strings : Xml → List String
  | element _ attributes text children =>
      attributes.map Prod.snd ++
        match children with
        | [] => [text]
        | child :: rest => stringsAll (child :: rest)

/-- The strings that stand in a document of some elements. -/
def stringsAll : List Xml → List String
  | [] => []
  | child :: rest => strings child ++ stringsAll rest

end

theorem all_isChar_name {cs : List Char} (named : isName cs) : cs.all isChar := by
  obtain ⟨c, rest, rfl, first, others⟩ := exists_cons_of_isName named
  exact List.all_eq_true.2 (List.forall_mem_cons.2 ⟨isChar_of_isNameChar first,
    fun d later => isChar_of_isNameChar (others d later)⟩)

theorem allowed_newline (depth : Nat) : allowed (newline depth) :=
  List.all_eq_true.2 fun c member => by
    rcases eq_of_mem_newline member with rfl | rfl <;> rfl

theorem allowed_attributesText {attributes : List (String × String)}
    (named : ∀ a ∈ attributes, isName a.1.toList) :
    allowed (attributesText attributes) = (attributes.map Prod.snd).all allowed := by
  rw [allowed, all_attributesText rfl rfl rfl, List.all_map, Bool.eq_iff_iff, List.all_eq_true,
    List.all_eq_true]
  refine forall₂_congr fun a member => ?_
  rw [all_isChar_name (named a member), Bool.true_and]
  exact Bool.eq_iff_iff.1 (allowed_escapeAttribute a.2)

mutual

/-- A document is made of allowed characters exactly if its strings are. -/
theorem allowed_render (x : Xml) (named : Named x) (depth : Nat) :
    allowed (render depth x) = (strings x).all allowed := by
  obtain ⟨tag, attributes, text, children⟩ := x
  obtain ⟨tagged, proper, inside⟩ := named
  have written : allowed tag = true := all_isChar_name tagged
  have left : allowed "<" = true := by decide
  have slash : allowed "</" = true := by decide
  have right : allowed ">" = true := by decide
  have both : allowed " />" = true := by decide
  cases children with
  | nil =>
      rw [render, strings, List.all_append, ← allowed_attributesText proper.names, List.all_cons,
        List.all_nil, Bool.and_true]
      by_cases none : text.isEmpty
      · have nothing : allowed text = true := by rw [String.isEmpty_iff.1 none]; rfl
        rw [if_pos none]
        simp only [allowed_append, written, left, both, nothing, Bool.and_true, Bool.true_and]
      · rw [if_neg none]
        simp only [allowed_append, allowed_escapeText, written, left, slash, right, Bool.and_true,
          Bool.true_and]
  | cons child others =>
      have content := allowed_renderAll (child :: others) inside (depth + 1)
      rw [render, strings, List.all_append, ← allowed_attributesText proper.names, ← content]
      simp only [allowed_append, allowed_newline, written, left, slash, right, Bool.and_true,
        Bool.true_and]

theorem allowed_renderAll (xs : List Xml) (named : ∀ x ∈ xs, Named x) (depth : Nat) :
    allowed (renderAll depth xs) = (stringsAll xs).all allowed := by
  match xs with
  | [] => rfl
  | child :: others =>
      have first := allowed_render child (named child List.mem_cons_self) depth
      have rest := allowed_renderAll others
        (fun x later => named x (List.mem_cons_of_mem _ later)) depth
      rw [renderAll, stringsAll, List.all_append, allowed_append, allowed_append,
        allowed_newline, first, rest, Bool.true_and]

end

/-! ## Documents -/

theorem document_eq (x : Xml) : document x = declaration ++ "\n" ++ render 0 x ++ "\n" :=
  have begins : "<?xml version=\"1.0\" encoding=\"UTF-8\"?>\n" = declaration ++ "\n" := by
    decide +kernel
  congrArg (· ++ render 0 x ++ "\n") begins

theorem toList_document (x : Xml) :
    (document x).toList = declaration.toList ++ ('\n' :: ((render 0 x).toList ++ ['\n'])) := by
  have feed : "\n".toList = ['\n'] := rfl
  rw [document_eq, String.toList_append, String.toList_append, String.toList_append, feed,
    List.append_assoc, List.append_assoc, List.singleton_append]

theorem allowed_document (x : Xml) (named : Named x) :
    allowed (document x) = (strings x).all allowed := by
  have declared : allowed declaration = true := by decide +kernel
  have ends : allowed "\n" = true := by decide
  rw [document_eq, allowed_append, allowed_append, allowed_append, declared, ends,
    allowed_render x named 0, Bool.true_and, Bool.true_and, Bool.and_true]

theorem lineEnds_document (x : Xml) (named : Named x) :
    lineEnds (document x).toList = (document (lined x)).toList := by
  have declared : '\r' ∉ declaration.toList := by decide +kernel
  rw [toList_document, toList_document, lineEnds_append_left declared,
    lineEnds_cons (by decide), lineEnds_render x named 0]
  rfl

/-- Behind the declaration an element that is written with line feeds is read. -/
theorem run_document (x : Xml) (named : Named x) :
    Reader.run {} ('\n' :: ((render 0 x).toList ++ ['\n'])) =
      some ⟨.content ['\n'], [], some (toNode 0 x)⟩ := by
  have first : Reader.step {} '\n' = some ⟨.content ['\n'], [], none⟩ := rfl
  rw [Reader.run_cons, first, Option.bind_some, Reader.run_append, run_render x named 0 rfl rfl]
  rfl

/-- A document of an element is read as the tree of the element with the ends of its lines as line
feeds, unless one of its strings has a character that is not allowed. -/
theorem read_document (x : Xml) (named : Named x) :
    read (document x) =
      if (strings x).all allowed then some (toNode 0 (lined x)) else none := by
  rw [read, allowed_document x named, lineEnds_document x named, toList_document]
  have declared : declaration.toList.isPrefixOf
      (declaration.toList ++ ('\n' :: ((render 0 (lined x)).toList ++ ['\n']))) :=
    List.isPrefixOf_iff_prefix.2 (List.prefix_append _ _)
  rw [declared, Bool.and_true, ← String.length_toList, List.drop_left,
    run_document (lined x) (named_lined x named)]
  rfl

/-! ## What is found in a tree -/

section Views

variable {tag text : String} {attributes : List (String × String)} {children : List Xml}

theorem linedAll_eq_map (xs : List Xml) : linedAll xs = xs.map lined := by
  induction xs with
  | nil => rfl
  | cons x xs ih => rw [linedAll, ih, List.map_cons]

theorem tag?_toNode (depth : Nat) :
    (toNode depth (.element tag attributes text children)).tag? = some tag := by
  cases children <;> rw [toNode, Node.tag?]

theorem isSome_tag?_toNode (depth : Nat) (x : Xml) : (toNode depth x).tag?.isSome := by
  obtain ⟨tag, attributes, text, children⟩ := x
  rw [tag?_toNode]
  rfl

theorem filter_nodesOf (depth : Nat) (xs : List Xml) :
    (nodesOf depth xs).filter (fun n => n.tag?.isSome) = xs.map (toNode depth) := by
  induction xs with
  | nil => rfl
  | cons x xs ih =>
      rw [nodesOf, List.filter_cons_of_neg Bool.false_ne_true,
        List.filter_cons_of_pos (p := fun n => (Node.tag? n).isSome)
          (isSome_tag?_toNode depth x), ih, List.map_cons]

/-- The elements inside an element are found in it. -/
theorem elements_toNode (depth : Nat) :
    (toNode depth (.element tag attributes text children)).elements =
      children.map (toNode (depth + 1)) := by
  cases children with
  | nil =>
      rw [toNode, Node.elements]
      split <;> rfl
  | cons child rest =>
      rw [toNode, Node.elements, List.filter_append, filter_nodesOf]
      exact List.append_nil _

/-- The attributes of an element are found in it. -/
theorem attribute?_toNode (distinct : (attributes.map Prod.fst).Nodup) (depth : Nat)
    (name : String) :
    (toNode depth (.element tag attributes text children)).attribute? name =
      attributes.lookup name := by
  cases children <;>
    rw [toNode, Node.attribute?, Table.get?, Table.entries_ofList distinct]

/-- The text of an element with nothing else inside is found in it. -/
theorem content_toNode (depth : Nat) :
    (toNode depth (.element tag attributes text [])).content = text := by
  rw [toNode, Node.content]
  by_cases none : text.isEmpty
  · rw [if_pos none, String.isEmpty_iff.1 none]
    rfl
  · rw [if_neg none]
    rw [List.map_singleton, String.join_cons]
    exact String.append_empty

/-- The strings of an element without a text of its own are those of its attributes and of the
elements inside. -/
theorem all_strings {p : String → Bool} (empty : p "") :
    (strings (.element tag attributes "" children)).all p =
      (attributes.all (fun a => p a.2) && children.all fun child => (strings child).all p) := by
  have inner (xs : List Xml) : (stringsAll xs).all p = xs.all fun x => (strings x).all p := by
    induction xs with
    | nil => rfl
    | cons x xs ih => rw [stringsAll, List.all_append, ih, List.all_cons]
  cases children with
  | nil =>
      rw [strings, List.all_append, List.all_map, List.all_cons, empty]
      rfl
  | cons child rest =>
      rw [strings, List.all_append, List.all_map, inner]
      rfl

end Views

end Meteo.Response.Xml
