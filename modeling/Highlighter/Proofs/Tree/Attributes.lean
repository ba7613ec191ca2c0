import Highlighter.Tree.Element
import Highlighter.Proofs.Keyed
import Mathlib.Data.List.Induction

/-!
# Attributes and classes

What an element keeps of the calls that set its attributes and add its classes.

Attributes are keyed values, so `Keyed` tells what setting one does. The names of the
attributes are a list that every call lets the name of its attribute join, and the value
of an attribute is the last one it was set to.

Classes are a list of this kind too, but it is hidden in a text. A class is added by
writing a space and its name behind whatever the text holds, and the list is read by
splitting the text at its blanks. A blank splits a text into two that are read apart
from each other, and a name without blanks is read as one word. So the name comes
behind all the words that were read before, however many blanks stood between them.
That the name is not written twice needs no more than that the words are looked
through first.

## Main definitions

* `IsClassName`: A text that is one word.
* `Element.names`: The names of the attributes.
* `AttributeCall`: A call that sets an attribute or adds a class.
* `Element.ofCalls`: The element that some calls make of a new one.
* `Element.addClasses`: Some classes added one after the other.

## Theorems

* `splitBlanks_eq_splitOnP`: Words are the pieces between blanks that are not empty.
* `splitBlanks_append_blank`: A blank splits a text.
* `Element.attribute?_setAttribute`, `Element.names_setAttribute`: Setting an attribute.
* `Element.addClass_eq`: Adding a class is setting an attribute, or nothing.
* `Element.classes_addClass`, `Element.classes_addClasses`: The classes after adding.
* `Element.names_ofCalls`, `Element.attribute?_ofCalls`: The attributes after all calls.
* `Element.ofCalls_addClasses`: Names and classes are sets that remember an order.
-/

namespace Highlighter

/-! ## Words between blanks -/

/-- A text that is one word: it has a character, and none of its characters is a
    blank. -/
structure IsClassName (name : String) : Prop where
  ne_empty : name ≠ ""
  no_blank : ∀ c ∈ name.toList, isBlank c = false

instance (name : String) : Decidable (IsClassName name) :=
  decidable_of_iff (name ≠ "" ∧ name.toList.any isBlank = false)
    ⟨fun h => ⟨h.1, fun c hc => Bool.eq_false_iff.mpr (List.any_eq_false.mp h.2 c hc)⟩,
      fun h => ⟨h.ne_empty, List.any_eq_false.mpr fun c hc =>
        Bool.eq_false_iff.mp (h.no_blank c hc)⟩⟩

/-- The words of a text are the pieces between its blanks that are not empty. The word
    that is being read goes in front of the first piece. -/
theorem splitBlanks_eq_splitOnP (word cs : List Char) :
    splitBlanks word cs = (List.splitOnPPrepend isBlank cs word).filter fun w => !w.isEmpty := by
  induction cs generalizing word with
  | nil =>
      rw [splitBlanks, List.splitOnPPrepend_nil, List.filter_singleton, List.isEmpty_reverse]
      by_cases hword : word.isEmpty = true
      · rw [if_pos hword, hword]
        rfl
      · rw [if_neg hword, Bool.of_not_eq_true hword]
        rfl
  | cons c cs ih =>
      rw [splitBlanks, List.splitOnPPrepend_cons_eq_if]
      by_cases hc : isBlank c = true
      · rw [if_pos hc, if_pos hc, List.filter_cons, List.isEmpty_reverse, ih,
          List.splitOnPPrepend_nil_right]
        by_cases hword : word.isEmpty = true
        · rw [if_pos hword, hword]
          rfl
        · rw [if_neg hword, Bool.of_not_eq_true hword]
          rfl
      · rw [if_neg hc, if_neg hc, ih]

/-- What stands before a blank and what stands behind it are read apart. -/
theorem splitBlanks_append_blank (before after : List Char) {b : Char} (hb : isBlank b = true) :
    splitBlanks [] (before ++ b :: after) = splitBlanks [] before ++ splitBlanks [] after := by
  rw [splitBlanks_eq_splitOnP, splitBlanks_eq_splitOnP, splitBlanks_eq_splitOnP,
    List.splitOnPPrepend_nil_right, List.splitOnP_append_cons _ _ hb, List.filter_append]
  rfl

/-- The name of a class is read as one word. -/
theorem IsClassName.splitBlanks_eq {name : String} (h : IsClassName name) :
    splitBlanks [] name.toList = [name.toList] := by
  have hne : (!name.toList.isEmpty) = true := by
    rw [Bool.not_eq_true', List.isEmpty_eq_false_iff, ne_eq, String.toList_eq_nil_iff]
    exact h.ne_empty
  rw [splitBlanks_eq_splitOnP, List.splitOnPPrepend_nil_right,
    List.splitOnP_eq_singleton h.no_blank, List.filter_singleton, hne]
  rfl

/-! ## Setting an attribute -/

theorem setAttributeIn_eq_putIn (name value : String) (attributes : List (String × String)) :
    setAttributeIn name value attributes = putIn name value attributes := by
  induction attributes with
  | nil => rfl
  | cons a rest ih =>
      rcases a with ⟨n, v⟩
      rw [setAttributeIn, putIn, ih]
      by_cases hn : n = name
      · rw [if_pos hn, if_pos hn, hn]
      · rw [if_neg hn, if_neg hn]

namespace Element

/-- The names of the attributes. -/
def names (e : Element) : List String := e.attributes.map (·.1)

theorem attribute?_setAttribute (e : Element) (name value n : String) :
    (e.setAttribute name value).attribute? n = if n = name then some value else e.attribute? n := by
  rw [attribute?, setAttribute, setAttributeIn_eq_putIn, lookup_putIn, attribute?]

theorem names_setAttribute (e : Element) (name value : String) :
    (e.setAttribute name value).names = addNew e.names name := by
  rw [names, setAttribute, setAttributeIn_eq_putIn, map_fst_putIn, names]

/-! ## Adding a class -/

/-- The classes are the words of their attribute, and there is none without it. -/
theorem classes_eq (e : Element) : e.classes
    = ((((e.attribute? "class").getD "").toList.splitOnP isBlank).filter
      fun w => !w.isEmpty).map String.ofList := by
  rw [classes, splitBlanks_eq_splitOnP, List.splitOnPPrepend_nil_right]

/-- An element without the attribute has no class. -/
theorem classes_of_attribute?_eq_none {e : Element} (h : e.attribute? "class" = none) :
    e.classes = [] := by
  rw [classes, h]
  rfl

/-- A class that is there already changes nothing. Any other one is written behind the
    former value, or is the value. -/
theorem addClass_eq (e : Element) (name : String) :
    e.addClass name = if name ∈ e.classes then e else
      e.setAttribute "class" (((e.attribute? "class").map (· ++ " ")).getD "" ++ name) := by
  unfold addClass
  rcases hvalue : e.attribute? "class" with _ | value
  · rw [classes_of_attribute?_eq_none hvalue, if_neg List.not_mem_nil, Option.map_none,
      Option.getD_none, String.empty_append]
  · simp only [List.contains_iff_mem, Option.map_some, Option.getD_some]

theorem addClass_of_mem {e : Element} {name : String} (h : name ∈ e.classes) :
    e.addClass name = e := by
  rw [addClass_eq, if_pos h]

/-- The name of a class joins the classes. -/
theorem classes_addClass (e : Element) {name : String} (h : IsClassName name) :
    (e.addClass name).classes = addNew e.classes name := by
  have hread : (splitBlanks [] name.toList).map String.ofList = [name] := by
    rw [h.splitBlanks_eq, List.map_singleton, String.ofList_toList]
  rw [addClass_eq, addNew]
  by_cases hmem : name ∈ e.classes
  · rw [if_pos hmem, if_pos hmem]
  · rw [if_neg hmem, if_neg hmem, classes, attribute?_setAttribute, if_pos rfl, Option.getD_some]
    rcases hvalue : e.attribute? "class" with _ | value
    · rw [classes_of_attribute?_eq_none hvalue, Option.map_none, Option.getD_none,
        String.empty_append, hread, List.nil_append]
    · have hspace : (value ++ " " ++ name).toList = value.toList ++ ' ' :: name.toList := by
        rw [String.toList_append, String.toList_append, List.append_assoc]
        rfl
      rw [Option.map_some, Option.getD_some, hspace, splitBlanks_append_blank _ _ (by decide),
        List.map_append, hread, classes, hvalue, Option.getD_some]

/-- Some classes added one after the other. -/
def addClasses (e : Element) (names : List String) : Element := names.foldl addClass e

theorem classes_addClasses (e : Element) (names : List String)
    (hnames : ∀ name ∈ names, IsClassName name) :
    (e.addClasses names).classes = e.classes ++ (names.removeAll e.classes).eraseDups := by
  rw [← foldl_addNew, addClasses]
  induction names generalizing e with
  | nil => rfl
  | cons name names ih =>
      rw [List.foldl_cons, List.foldl_cons, ih _ fun n hn => hnames n (List.mem_cons_of_mem _ hn),
        classes_addClass e (hnames name List.mem_cons_self)]

/-- Adding classes changes nothing but the attribute that holds them. -/
theorem addClasses_frame (e : Element) (names : List String) :
    (e.addClasses names).tag = e.tag ∧ (e.addClasses names).children = e.children ∧
      (e.addClasses names).attributes.filter (·.1 != "class")
        = e.attributes.filter (·.1 != "class") := by
  unfold addClasses
  induction names generalizing e with
  | nil => exact ⟨rfl, rfl, rfl⟩
  | cons name names ih =>
      have hrest := ih (e.addClass name)
      rw [List.foldl_cons, hrest.1, hrest.2.1, hrest.2.2, addClass_eq]
      by_cases hmem : name ∈ e.classes
      · rw [if_pos hmem]
        exact ⟨rfl, rfl, rfl⟩
      · rw [if_neg hmem, setAttribute, setAttributeIn_eq_putIn, filter_putIn]
        exact ⟨rfl, rfl, rfl⟩

end Element

/-! ## Calls -/

/-- A call that changes the attributes of an element. -/
inductive AttributeCall where
  | setAttribute (name value : String)
  | addClass (name : String)

namespace AttributeCall

/-- The attribute that a call is about. -/
def named : AttributeCall → String
  | setAttribute name _ => name
  | addClass _ => "class"

/-- The value to which a call sets an attribute of a given name, if it does. -/
def value? (name : String) : AttributeCall → Option String
  | setAttribute n value => if name = n then some value else none
  | addClass _ => none

end AttributeCall

namespace Element

/-- Makes a call. -/
def perform (e : Element) : AttributeCall → Element
  | .setAttribute name value => e.setAttribute name value
  | .addClass name => e.addClass name

/-- The element that some calls make of a new one. -/
def ofCalls (tag : String) (calls : List AttributeCall) : Element := calls.foldl perform { tag }

/-- A call lets the name of its attribute join the names. -/
theorem names_perform (e : Element) (call : AttributeCall) :
    (e.perform call).names = addNew e.names call.named := by
  cases call with
  | setAttribute name value => exact names_setAttribute e name value
  | addClass name =>
      rw [perform, addClass_eq, AttributeCall.named]
      by_cases hmem : name ∈ e.classes
      · -- There is a class, so there is the attribute.
        have hclass : "class" ∈ e.names := by
          rw [names, mem_map_fst_iff, ← attribute?, ← Option.ne_none_iff_isSome]
          intro hnone
          rw [classes_of_attribute?_eq_none hnone] at hmem
          exact List.not_mem_nil hmem
        rw [if_pos hmem, addNew, if_pos hclass]
      · rw [if_neg hmem, names_setAttribute]

/-- A call sets the attribute that it names to its value, and no other one but that of
    the classes. -/
theorem attribute?_perform (e : Element) (call : AttributeCall) {name : String}
    (hname : name ≠ "class") :
    (e.perform call).attribute? name = (call.value? name).or (e.attribute? name) := by
  cases call with
  | setAttribute n value =>
      rw [perform, attribute?_setAttribute, AttributeCall.value?]
      by_cases hn : name = n
      · rw [if_pos hn, if_pos hn, Option.some_or]
      · rw [if_neg hn, if_neg hn, Option.none_or]
  | addClass n =>
      rw [perform, addClass_eq, AttributeCall.value?, Option.none_or]
      by_cases hmem : n ∈ e.classes
      · rw [if_pos hmem]
      · rw [if_neg hmem, attribute?_setAttribute, if_neg hname]

theorem ofCalls_concat (tag : String) (calls : List AttributeCall) (call : AttributeCall) :
    ofCalls tag (calls ++ [call]) = (ofCalls tag calls).perform call := by
  rw [ofCalls, List.foldl_append]
  rfl

/-- The names are those that the calls name, in the order of their first naming. -/
theorem names_ofCalls (tag : String) (calls : List AttributeCall) :
    (ofCalls tag calls).names = (calls.map (·.named)).foldl addNew [] := by
  induction calls using List.reverseRecOn with
  | nil => rfl
  | append_singleton calls call ih =>
      rw [ofCalls_concat, names_perform, ih, List.map_append, List.foldl_append]
      rfl

/-- An attribute has the last value it was set to. -/
theorem attribute?_ofCalls (tag : String) (calls : List AttributeCall) {name : String}
    (hname : name ≠ "class") :
    (ofCalls tag calls).attribute? name = (calls.filterMap (·.value? name)).getLast? := by
  induction calls using List.reverseRecOn with
  | nil => rfl
  | append_singleton calls call ih =>
      rw [ofCalls_concat, attribute?_perform _ _ hname, ih, List.filterMap_append]
      rcases hvalue : call.value? name with _ | value
      · rw [Option.none_or, List.filterMap_cons_none hvalue, List.filterMap_nil, List.append_nil]
      · rw [Option.some_or, List.filterMap_cons_some hvalue, List.filterMap_nil,
          List.getLast?_concat]

/-- The names of the attributes are distinct and stand in the order of their first
    setting, and every attribute but that of the classes has the last value it was set
    to. The classes are the pieces between the blanks of their attribute that are not
    empty. Of any element, the classes after adding some are the former ones, and behind
    them those added that were none, each once and in the order of the first adding.
    A class that is there already changes nothing, and no class changes anything but
    the attribute of the classes. -/
theorem ofCalls_addClasses (tag : String) (calls : List AttributeCall) :
    ((ofCalls tag calls).names.Nodup ∧
      (ofCalls tag calls).names = (calls.map (·.named)).eraseDups ∧
      ∀ name, name ≠ "class" →
        (ofCalls tag calls).attribute? name = (calls.filterMap (·.value? name)).getLast?) ∧
    (∀ e : Element, e.classes = ((((e.attribute? "class").getD "").toList.splitOnP isBlank).filter
      fun w => !w.isEmpty).map String.ofList) ∧
    ∀ (e : Element) (names : List String), (∀ name ∈ names, IsClassName name) →
      (e.addClasses names).classes = e.classes ++ (names.removeAll e.classes).eraseDups ∧
      (∀ name ∈ e.classes, e.addClass name = e) ∧
      (e.addClasses names).tag = e.tag ∧ (e.addClasses names).children = e.children ∧
      (e.addClasses names).attributes.filter (·.1 != "class")
        = e.attributes.filter (·.1 != "class") := by
  have hnames := names_ofCalls tag calls
  refine ⟨⟨?_, ?_, fun name => attribute?_ofCalls tag calls⟩, classes_eq,
    fun e names hclass => ?_⟩
  · rw [hnames]
    exact nodup_foldl_addNew List.nodup_nil _
  · rw [hnames, foldl_addNew, List.removeAll_nil, List.nil_append]
  · exact ⟨e.classes_addClasses names hclass, fun name => addClass_of_mem,
      e.addClasses_frame names⟩

/-- Calls that set the classes among other attributes, to a value with several kinds of
    blanks and with a repetition. -/
def blankCalls : List AttributeCall :=
  [.setAttribute "title" "a\"b", .addClass "kw", .setAttribute "class" "\u2003kw\t bold\u00a0kw ",
    .setAttribute "id" "x", .setAttribute "title" "c"]

theorem ofCalls_addClasses_blanks :
    (∀ name ∈ ["op", "bold", "op", "up"], IsClassName name) ∧ "title" ≠ "class" ∧
    (ofCalls "span" blankCalls).names = ["title", "class", "id"] ∧
    (ofCalls "span" blankCalls).attribute? "title" = some "c" ∧
    ((ofCalls "span" blankCalls).addClasses ["op", "bold", "op", "up"]).classes
      = ["kw", "bold", "kw", "op", "up"] ∧
    (∀ name ∈ (ofCalls "span" blankCalls).classes,
      (ofCalls "span" blankCalls).addClass name = ofCalls "span" blankCalls) ∧
    ((ofCalls "span" blankCalls).addClasses ["op", "bold", "op", "up"]).attributes.filter
        (·.1 != "class")
      = (ofCalls "span" blankCalls).attributes.filter (·.1 != "class") := by
  have hclass : ∀ name ∈ ["op", "bold", "op", "up"], IsClassName name := by decide
  have htitle : "title" ≠ "class" := by decide
  have hall := ofCalls_addClasses "span" blankCalls
  have hadded := hall.2.2 (ofCalls "span" blankCalls) _ hclass
  exact ⟨hclass, htitle, hall.1.2.1.trans (by decide), (hall.1.2.2 _ htitle).trans (by decide),
    hadded.1.trans (by decide), hadded.2.1, hadded.2.2.2.2⟩

end Element

end Highlighter
