import BuildEnv.Database.Reader
import BuildEnv.Proofs.Charset.Utf8
import BuildEnv.Proofs.Json.Compact
import Mathlib.Data.List.Forall2

/-!
# Databases that are written are read again

The elements of a database can be written one by one, an entry as its value of JSON on
one line.  Such a database is read as its entries in order, and elements that are no
entries do not matter, wherever they stand (`Database.ofBytes?_elements`).

A field of an entry is left out exactly if it is what reading puts in place of a missing
one, so that an entry is read back from its value (`Entry.ofJson?_toJson`).  The texts of
the entry survive since every character of a string does, in JSON and in UTF-8.
-/

namespace BuildEnv

namespace Database

namespace Entry

variable (e : Entry)

/-- The fields that an entry is written with. -/
def fields : List (Text × Json) :=
  match e.toJson with
  | .object fields => fields
  | _ => []

theorem toJson_eq : e.toJson = .object e.fields :=
  rfl

/-- **What is written under each key.**  Nothing is written for empty words, an empty
command and a missing output. -/
theorem field?_fields :
    Json.field? e.fields "file".toList = some (.string e.file.text) ∧
      Json.field? e.fields "arguments".toList =
        (if e.arguments.isEmpty then none else some (.array (e.arguments.map .string))) ∧
      Json.field? e.fields "command".toList =
        (if e.command.isEmpty then none else some (.string e.command)) ∧
      Json.field? e.fields "directory".toList = some (.string e.directory.text) ∧
      Json.field? e.fields "output".toList = e.output.map fun output => .string output.text := by
  obtain ⟨file, arguments, command, directory, output⟩ := e
  cases arguments <;> cases command <;> cases output <;> exact ⟨rfl, rfl, rfl, rfl, rfl⟩

/-- A written list of texts is read back. -/
theorem texts?_map (texts : List Text) : texts? (.array (texts.map .string)) = some texts := by
  have hread : (texts.map Json.string).mapM text? = some (texts.map id) :=
    Json.mapM_map_eq_some fun _ _ => rfl
  rwa [List.map_id] at hread

/-- **An entry is read back** from its value. -/
theorem ofJson?_toJson : ofJson? e.toJson = some e := by
  obtain ⟨hfile, harguments, hcommand, hdirectory, houtput⟩ := e.field?_fields
  have hwords : fieldOr [] texts? (Json.field? e.fields "arguments".toList) =
      some e.arguments := by
    rw [harguments]
    split
    · next hempty => rw [fieldOr, List.isEmpty_iff.mp hempty]
    · exact texts?_map e.arguments
  have htext : fieldOr [] text? (Json.field? e.fields "command".toList) = some e.command := by
    rw [hcommand]
    split
    · next hempty => rw [fieldOr, List.isEmpty_iff.mp hempty]
    · rfl
  have hfound : fieldOr none output? (Json.field? e.fields "output".toList) = some e.output := by
    rw [houtput]
    cases e.output <;> rfl
  rw [toJson_eq]
  show ofFields? e.fields = some e
  simp only [ofFields?, hfile, hwords, htext, hdirectory, hfound]
  rfl

/-- An entry is made of texts and one list of texts. -/
theorem textual_toJson : Json.Textual 2 e.toJson := by
  have harguments : Json.Textual 1 (.array (e.arguments.map .string)) := by
    refine .array fun v hv => ?_
    obtain ⟨t, _, rfl⟩ := List.mem_map.mp hv
    exact .string 0 t
  rw [toJson_eq]
  refine .object fun f hf => ?_
  simp only [fields, toJson, List.mem_append, List.mem_singleton] at hf
  rcases hf with (((rfl | hf) | hf) | rfl) | hf
  · exact .string 1 _
  · split at hf
    · cases hf
    · rwa [List.mem_singleton.mp hf]
  · split at hf
    · cases hf
    · rw [List.mem_singleton.mp hf]
      exact .string 1 _
  · exact .string 1 _
  · split at hf
    · cases hf
    · rw [List.mem_singleton.mp hf]
      exact .string 1 _

/-- The text of an entry is an element of an array. -/
theorem isElement_compact : Json.IsElement e.toJson.compact e.toJson :=
  e.textual_toJson.standard.isElement_compact (by decide)

end Entry

/-- What can stand in a database. -/
inductive Element where
  /-- An entry, as it is written. -/
  | entry (e : Entry)
  /-- Any other value, however it is written. -/
  | foreign (text : Text) (value : Json) (htext : Json.IsElement text value)
      (hvalue : Entry.ofJson? value = none)

namespace Element

/-- How the element is written. -/
def text : Element → Text
  | entry e => e.toJson.compact
  | foreign text _ _ _ => text

/-- The value of the element. -/
def value : Element → Json
  | entry e => e.toJson
  | foreign _ value _ _ => value

/-- The entry that the element is. -/
def entry? : Element → Option Entry
  | entry e => some e
  | foreign _ _ _ _ => none

/-- Every element is written as one that the reader takes. -/
theorem isElement : (x : Element) → Json.IsElement x.text x.value
  | entry e => e.isElement_compact
  | foreign _ _ htext _ => htext

/-- An element is read as the entry it is, and as none if it is foreign. -/
theorem ofJson?_value : (x : Element) → Entry.ofJson? x.value = x.entry?
  | entry e => e.ofJson?_toJson
  | foreign _ _ _ hvalue => hvalue

end Element

/-- The file in which some elements are listed. -/
def bytesOf (elements : List Text) : Bytes :=
  Utf8.encode (Json.arrayText elements)

/-- **Elements are read** as the entries among them, in order. -/
theorem ofBytes?_bytesOf (elements : List Element) :
    ofBytes? (bytesOf (elements.map Element.text)) = some (elements.filterMap Element.entry?) := by
  have helements : List.Forall₂ Json.IsElement (elements.map Element.text)
      (elements.map Element.value) := by
    rw [List.forall₂_map_left_iff, List.forall₂_map_right_iff]
    exact List.forall₂_same.mpr fun x _ => x.isElement
  have hvalues : (elements.map Element.value).filterMap Entry.ofJson? =
      elements.filterMap Element.entry? := by
    rw [List.filterMap_map]
    exact List.filterMap_congr fun x _ => x.ofJson?_value
  rw [ofBytes?, bytesOf, Utf8.strict?_encode, Option.bind_some, ofText?,
    Json.ofText?_arrayText helements, Option.bind_some, ofJson?, hvalues]

/-- **What is written is read again.**  The texts of entries in an array are read as these
entries, and elements that are no entries make no difference wherever they stand.  Any value
that JSON can write is such an element, if it is not nested deeper than the reader allows. -/
theorem ofBytes?_elements :
    (∀ entries : List Entry,
      ofBytes? (bytesOf (entries.map fun e => e.toJson.compact)) = some entries) ∧
    (∀ elements : List Element,
      ofBytes? (bytesOf (elements.map Element.text)) =
        ofBytes? (bytesOf ((elements.filterMap Element.entry?).map fun e => e.toJson.compact))) ∧
    ∀ d v, Json.Standard d v → d < Json.maxDepth → Json.IsElement v.compact v := by
  have hentries : ∀ entries : List Entry,
      ofBytes? (bytesOf (entries.map fun e => e.toJson.compact)) = some entries := by
    intro entries
    have htexts : (entries.map fun e => e.toJson.compact) =
        (entries.map Element.entry).map Element.text := by
      rw [List.map_map]
      rfl
    rw [htexts, ofBytes?_bytesOf, List.filterMap_map]
    exact congrArg some List.filterMap_some
  refine ⟨hentries, fun elements => ?_, fun d v h hd => h.isElement_compact hd⟩
  rw [ofBytes?_bytesOf, hentries]

/-- An entry without words and output between a number, an object without a directory and
a list. -/
theorem ofBytes?_elements_mixed :
    ofBytes? (bytesOf ["-0".toList,
      "\x7b \"file\": \"\\u00e4.c\", \"command\": \"cc\" \x7d".toList,
      (Entry.ofCommand ⟨"ä.c".toList⟩ "cc \"ä.c\"".toList ⟨"/src".toList⟩).toJson.compact,
      "[null, [\"a.c\"], true]".toList]) =
    some [Entry.ofCommand ⟨"ä.c".toList⟩ "cc \"ä.c\"".toList ⟨"/src".toList⟩] := by
  have hmixed := ofBytes?_elements.2.1 [
    .foreign "-0".toList (.number ⟨true, ['0'], [], none⟩) rfl rfl,
    .foreign "\x7b \"file\": \"\\u00e4.c\", \"command\": \"cc\" \x7d".toList
      (.object [("file".toList, .string "ä.c".toList), ("command".toList, .string "cc".toList)])
      rfl rfl,
    .entry (Entry.ofCommand ⟨"ä.c".toList⟩ "cc \"ä.c\"".toList ⟨"/src".toList⟩),
    .foreign "[null, [\"a.c\"], true]".toList
      (.array [.null, .array [.string "a.c".toList], .bool true]) rfl rfl]
  exact hmixed.trans (ofBytes?_elements.1 _)

end Database

end BuildEnv
