import Mathlib.Data.List.Forall2
import GrammarWorkbench.Grammar.Description
import GrammarWorkbench.Proofs.Grammar.Names

/-!
# What can be wrong with a description

A description is refused for the first thing that is wrong with it, and each reason to refuse one
points at a place in the description (`Refuses`, `disqualifies_of_error`): a member that is missing
or holds no sequence, a name declared as both kinds, an entry that is no production, a name that was
not declared, a reserved symbol, or something that stands where a name or a sequence is due.

The last of these have no report, and neither have names that cannot be sorted or written in the
report about them (`Unreportable`). Every other error is reported (`Disqualifies.exists_report`).
-/

set_option autoImplicit false

namespace GrammarWorkbench

/-! ## Computations that can fail -/

section Except

variable {ε α β : Type}

theorem bind_eq_ok {first : Except ε α} {next : α → Except ε β} {result : β} :
    (first >>= next) = .ok result ↔ ∃ value, first = .ok value ∧ next value = .ok result := by
  cases first <;> simp [bind, Except.bind]

theorem bind_eq_error {first : Except ε α} {next : α → Except ε β} {error : ε} :
    (first >>= next) = .error error ↔
      first = .error error ∨ ∃ value, first = .ok value ∧ next value = .error error := by
  cases first <;> simp [bind, Except.bind]

/-- A list of computations that succeeds yields a result of each, in order. -/
theorem mapM_eq_ok {f : α → Except ε β} {list : List α} {results : List β}
    (h : list.mapM f = .ok results) :
    List.Forall₂ (fun a result => f a = .ok result) list results := by
  induction list generalizing results with
  | nil =>
      cases h
      exact .nil
  | cons a rest ih =>
      rw [List.mapM_cons, bind_eq_ok] at h
      obtain ⟨first, hfirst, hlater⟩ := h
      obtain ⟨later, hrest, heq⟩ := bind_eq_ok.1 hlater
      cases heq
      exact .cons hfirst (ih hrest)

/-- A list of computations fails with one of them. -/
theorem mapM_eq_error {f : α → Except ε β} {list : List α} {error : ε}
    (h : list.mapM f = .error error) : ∃ a ∈ list, f a = .error error := by
  induction list with
  | nil => cases h
  | cons a rest ih =>
      rw [List.mapM_cons, bind_eq_error] at h
      rcases h with hfirst | ⟨first, -, hlater⟩
      · exact ⟨a, List.mem_cons_self, hfirst⟩
      · rcases bind_eq_error.1 hlater with hrest | ⟨later, -, heq⟩
        · obtain ⟨b, hb, herror⟩ := ih hrest
          exact ⟨b, List.mem_cons_of_mem a hb, herror⟩
        · cases heq

/-- Lists that are related element by element have a partner for every element. -/
theorem exists_partners {related : α → β → Prop} {list : List α} {results : List β}
    (h : List.Forall₂ related list results) :
    (∀ a ∈ list, ∃ result ∈ results, related a result) ∧
      ∀ result ∈ results, ∃ a ∈ list, related a result := by
  induction h with
  | nil => exact ⟨fun _ hmem => absurd hmem List.not_mem_nil,
      fun _ hmem => absurd hmem List.not_mem_nil⟩
  | @cons a result list results hfirst _ ih =>
      constructor
      · intro b hmem
        rcases List.mem_cons.1 hmem with rfl | hmem
        · exact ⟨result, List.mem_cons_self, hfirst⟩
        · obtain ⟨other, hother, hb⟩ := ih.1 b hmem
          exact ⟨other, List.mem_cons_of_mem result hother, hb⟩
      · intro other hmem
        rcases List.mem_cons.1 hmem with rfl | hmem
        · exact ⟨a, List.mem_cons_self, hfirst⟩
        · obtain ⟨b, hb, hother⟩ := ih.2 other hmem
          exact ⟨b, List.mem_cons_of_mem a hb, hother⟩

end Except

end GrammarWorkbench

namespace GrammarWorkbench.Grammar

namespace Description

/-! ## Values in their places -/

/-- The items under a name in a description; none if there is no sequence. -/
def itemsAt (members : List (String × Json)) (name : String) : List Json :=
  ((members.lookup name).bind items?).getD []

/-- A value is a list or an object. -/
def IsCollection (value : Json) : Prop :=
  (∃ items, value = .list items) ∨ ∃ members, value = .object members

/-- A name with a key stands in a list of declared names. -/
def Declares (members : List (String × Json)) (list : String) (key : Name.Key) : Prop :=
  ∃ name : Name, name.value ∈ itemsAt members list ∧ name.key = key

/-- A value stands where the name of a declared symbol is due: as the start symbol, or on the left
or the right side of a production. -/
inductive Mentions (members : List (String × Json)) : Json → Prop
  | start {value : Json} (h : members.lookup "start" = some value) : Mentions members value
  | lhs {entry : List (String × Json)} {value : Json}
      (hentry : .object entry ∈ itemsAt members "productions")
      (h : entry.lookup "lhs" = some value) : Mentions members value
  | rhs {entry : List (String × Json)} {value : Json}
      (hentry : .object entry ∈ itemsAt members "productions")
      (h : value ∈ itemsAt entry "rhs") : Mentions members value

/-- A value names none of the symbols in some lists of declared names. -/
def Unknown (members : List (String × Json)) (lists : List String) (value : Json) : Prop :=
  ∀ name : Name, value = name.value → ∀ list ∈ lists, ¬ Declares members list name.key

variable {members : List (String × Json)} {value : Json} {error : DescriptionError}

theorem itemsAt_of_lookup {key : String} {items : List Json} (h : members.lookup key = some value)
    (hitems : items? value = some items) : itemsAt members key = items := by
  rw [itemsAt, h, Option.bind_some, hitems, Option.getD_some]

theorem sequence_eq_ok {key : String} {items : List Json} (h : sequence members key = .ok items) :
    itemsAt members key = items := by
  rw [sequence] at h
  split at h
  next => cases h
  next value hvalue =>
    split at h
    next items' hitems =>
      cases h
      exact itemsAt_of_lookup hvalue hitems
    next => cases h

theorem sequence_eq_error {key : String} (h : sequence members key = .error error) :
    members.lookup key = none ∧ error = .memberMissing key ∨
      ∃ value, members.lookup key = some value ∧ items? value = none ∧
        error = .memberNotIterable value.kindName := by
  rw [sequence] at h
  split at h
  next hnone =>
    cases h
    exact .inl ⟨hnone, rfl⟩
  next value hvalue =>
    split at h
    next => cases h
    next hitems =>
      cases h
      exact .inr ⟨value, hvalue, hitems, rfl⟩

/-- The names are the values that are no lists and no objects. -/
theorem nameOf_eq_ok {name : Name} : nameOf value = .ok name ↔ value = name.value := by
  constructor
  · intro h
    cases value with
    | list => cases h
    | object => cases h
    | _ =>
        cases h
        rfl
  · rintro rfl
    cases name <;> rfl

theorem nameOf_eq_error (h : nameOf value = .error error) :
    IsCollection value ∧ error = .nameExpected value := by
  cases value with
  | list items =>
      cases h
      exact ⟨.inl ⟨items, rfl⟩, rfl⟩
  | object members =>
      cases h
      exact ⟨.inr ⟨members, rfl⟩, rfl⟩
  | _ => cases h

/-- The names in a list are its items. -/
theorem mem_names_iff {list : String} {names : List Name}
    (h : (itemsAt members list).mapM nameOf = .ok names) {name : Name} :
    name ∈ names ↔ name.value ∈ itemsAt members list := by
  obtain ⟨hitems, hnames⟩ := exists_partners (mapM_eq_ok h)
  constructor
  · intro hmem
    obtain ⟨value, hvalue, hname⟩ := hnames name hmem
    rwa [nameOf_eq_ok.1 hname] at hvalue
  · intro hmem
    obtain ⟨other, hother, hname⟩ := hitems name.value hmem
    rw [nameOf_eq_ok.2 rfl] at hname
    cases hname
    exact hother

/-- The keys that a list declares are those of the names in it. -/
theorem exists_name_iff {list : String} {names : List Name}
    (h : (itemsAt members list).mapM nameOf = .ok names) {key : Name.Key} :
    (∃ name ∈ names, name.key = key) ↔ Declares members list key := by
  simp only [mem_names_iff h, Declares]

/-! ## Names of declared symbols -/

section Declared

variable {nonTerminals terminals : List Name}

theorem namedNonTerminal?_eq_error (h : namedNonTerminal? nonTerminals value = .error error) :
    IsCollection value ∧ error = .nameExpected value := by
  rw [namedNonTerminal?, bind_eq_error] at h
  rcases h with hname | ⟨_, -, h⟩
  · exact nameOf_eq_error hname
  · cases h

theorem namedNonTerminal?_eq_ok {found : Option Symbol}
    (h : namedNonTerminal? nonTerminals value = .ok found) :
    ∃ name : Name, value = name.value ∧
      ((∃ declared ∈ nonTerminals, declared.key = name.key ∧
          found = some (.nonTerminal declared)) ∨
        found = none ∧ ∀ other ∈ nonTerminals, other.key ≠ name.key) := by
  rw [namedNonTerminal?, bind_eq_ok] at h
  obtain ⟨name, hname, h⟩ := h
  refine ⟨name, nameOf_eq_ok.1 hname, ?_⟩
  cases h
  cases hfound : Name.find? nonTerminals name.key with
  | none => exact .inr ⟨rfl, Name.find?_eq_none_iff.1 hfound⟩
  | some declared =>
      obtain ⟨hmem, hkey⟩ := Name.of_find?_eq_some hfound
      exact .inl ⟨declared, hmem, hkey, rfl⟩

theorem symbol_eq_error (h : symbol nonTerminals terminals value = .error error) :
    IsCollection value ∧ error = .nameExpected value ∨
      error = .nameUndeclared value ∧ ∃ name : Name, value = name.value ∧
        (∀ other ∈ nonTerminals, other.key ≠ name.key) ∧
        ∀ other ∈ terminals, other.key ≠ name.key := by
  rw [symbol, bind_eq_error] at h
  rcases h with hname | ⟨name, hname, h⟩
  · exact .inl (nameOf_eq_error hname)
  · right
    split at h
    next => cases h
    next hnonTerminal =>
      split at h
      next => cases h
      next hterminal =>
        cases h
        exact ⟨rfl, name, nameOf_eq_ok.1 hname, Name.find?_eq_none_iff.1 hnonTerminal,
          Name.find?_eq_none_iff.1 hterminal⟩

theorem symbol_eq_ok {found : Symbol} (h : symbol nonTerminals terminals value = .ok found) :
    ∃ name : Name, value = name.value ∧ found.name.key = name.key ∧
      (found.name ∈ nonTerminals ∧ found = .nonTerminal found.name ∨
        found.name ∈ terminals ∧ found = .terminal found.name) := by
  rw [symbol, bind_eq_ok] at h
  obtain ⟨name, hname, h⟩ := h
  refine ⟨name, nameOf_eq_ok.1 hname, ?_⟩
  split at h
  next declared hnonTerminal =>
    cases h
    obtain ⟨hmem, hkey⟩ := Name.of_find?_eq_some hnonTerminal
    exact ⟨hkey, .inl ⟨hmem, rfl⟩⟩
  next =>
    split at h
    next declared hterminal =>
      cases h
      obtain ⟨hmem, hkey⟩ := Name.of_find?_eq_some hterminal
      exact ⟨hkey, .inr ⟨hmem, rfl⟩⟩
    next => cases h

/-! ## Productions -/

theorem rightSide_eq_ok {items : List Json} (h : rightSide members = .ok items) :
    itemsAt members "rhs" = items := by
  rw [rightSide] at h
  split at h
  next hnone =>
    cases h
    rw [itemsAt, hnone]
    rfl
  next value hvalue =>
    split at h
    next items' hitems =>
      cases h
      exact itemsAt_of_lookup hvalue hitems
    next => cases h

theorem rightSide_eq_error (h : rightSide members = .error error) :
    ∃ value, members.lookup "rhs" = some value ∧ items? value = none ∧
      error = .sequenceExpected value := by
  rw [rightSide] at h
  split at h
  next => cases h
  next value hvalue =>
    split at h
    next => cases h
    next hitems =>
      cases h
      exact ⟨value, hvalue, hitems, rfl⟩

/-- Everything that can go wrong with a production: it has no left side, its left side or one of the
names on its right is none of those declared or no name at all, or its right side is no sequence. -/
theorem production_eq_error {entry : Json}
    (h : production nonTerminals terminals entry = .error error) :
    entry.member? "lhs" = none ∧ error = .entryInvalid entry ∨
      ∃ members, entry = .object members ∧
        ((∃ lhs, members.lookup "lhs" = some lhs ∧
            (IsCollection lhs ∧ error = .nameExpected lhs ∨
              error = .lhsUndeclared lhs ∧ ∃ name : Name, lhs = name.value ∧
                ∀ other ∈ nonTerminals, other.key ≠ name.key)) ∨
          (∃ rhs, members.lookup "rhs" = some rhs ∧ items? rhs = none ∧
            error = .sequenceExpected rhs) ∨
          ∃ value ∈ itemsAt members "rhs",
            symbol nonTerminals terminals value = .error error) := by
  cases entry with
  | object members =>
      rw [production] at h
      split at h
      next hnone =>
        cases h
        exact .inl ⟨hnone, rfl⟩
      next lhs hlhs =>
        refine .inr ⟨members, rfl, ?_⟩
        -- The left side is looked at first, then the right side, then the symbols on it.
        rw [bind_eq_error] at h
        rcases h with hleft | ⟨found, hfound, h⟩
        · exact .inl ⟨lhs, hlhs, .inl (namedNonTerminal?_eq_error hleft)⟩
        · obtain ⟨name, hname, ⟨declared, -, -, rfl⟩ | ⟨rfl, hunknown⟩⟩ :=
            namedNonTerminal?_eq_ok hfound
          · rcases bind_eq_error.1 h with hright | ⟨names, hnames, h⟩
            · exact .inr (.inl (rightSide_eq_error hright))
            · rcases bind_eq_error.1 h with hsymbols | ⟨rhs, -, h⟩
              · rw [← rightSide_eq_ok hnames] at hsymbols
                exact .inr (.inr (mapM_eq_error hsymbols))
              · cases h
          · cases h
            exact .inl ⟨lhs, hlhs, .inr ⟨rfl, name, hname, hunknown⟩⟩
  | _ =>
      cases h
      exact .inl ⟨rfl, rfl⟩

/-- What a production described by an entry is made of. -/
theorem production_eq_ok {entry : Json} {result : Production}
    (h : production nonTerminals terminals entry = .ok result) :
    ∃ members declared, ∃ name : Name, entry = .object members ∧
      members.lookup "lhs" = some name.value ∧ declared ∈ nonTerminals ∧
      declared.key = name.key ∧ result.lhs = .nonTerminal declared ∧
      List.Forall₂ (fun value found => symbol nonTerminals terminals value = .ok found)
        (itemsAt members "rhs") result.rhs := by
  cases entry with
  | object members =>
      rw [production] at h
      split at h
      next => cases h
      next lhs hlhs =>
        rw [bind_eq_ok] at h
        obtain ⟨found, hfound, h⟩ := h
        obtain ⟨name, rfl, ⟨declared, hmem, hkey, rfl⟩ | ⟨rfl, -⟩⟩ := namedNonTerminal?_eq_ok hfound
        · obtain ⟨names, hnames, h⟩ := bind_eq_ok.1 h
          obtain ⟨rhs, hrhs, h⟩ := bind_eq_ok.1 h
          cases h
          rw [← rightSide_eq_ok hnames] at hrhs
          exact ⟨members, declared, name, rfl, hlhs, hmem, hkey, rfl, mapM_eq_ok hrhs⟩
        · cases h
  | _ => cases h

end Declared

end Description

/-! ## Grammars of resolved productions -/

/-- A production uses declared symbols only. -/
def Production.Resolved (nonTerminals terminals : List Symbol) (production : Production) : Prop :=
  production.lhs ∈ nonTerminals ∧
    ∀ symbol ∈ production.rhs, symbol ∈ terminals ∨ symbol ∈ nonTerminals

theorem Description.resolved_of_production {nonTerminals terminals : List Name} {entry : Json}
    {result : Production} (h : production nonTerminals terminals entry = .ok result) :
    result.Resolved (nonTerminals.map .nonTerminal) (terminals.map .terminal) := by
  obtain ⟨members, declared, name, -, -, hmem, -, hlhs, hrhs⟩ := production_eq_ok h
  refine ⟨hlhs ▸ List.mem_map_of_mem hmem, ?_⟩
  intro found hfound
  obtain ⟨value, -, hvalue⟩ := (exists_partners hrhs).2 found hfound
  obtain ⟨other, -, -, ⟨hother, heq⟩ | ⟨hother, heq⟩⟩ := symbol_eq_ok hvalue
  · exact .inr (heq ▸ List.mem_map_of_mem hother)
  · exact .inl (heq ▸ List.mem_map_of_mem hother)

/-- With a declared start symbol and resolved productions only a reserved symbol on the right of a
production stands in the way of a grammar. -/
theorem build_eq_error {nonTerminals terminals : List Symbol} {productions : List Production}
    {start : Symbol} {error : GrammarError} (hstart : start ∈ nonTerminals)
    (hresolved : ∀ production ∈ productions, production.Resolved nonTerminals terminals)
    (h : build nonTerminals terminals productions (some start) = .error error) :
    ∃ production ∈ productions, ∃ symbol ∈ production.rhs,
      (symbol = .epsilon ∨ symbol = .endMark) ∧ error = .reservedSymbol production symbol := by
  rw [build] at h
  simp only [mem_firstOccurrences, dif_pos hstart] at h
  split at h
  next fault hfault =>
    cases h
    -- The fault is that of a production; its left side and its symbols are declared.
    obtain ⟨production, hproduction, hfault⟩ := List.exists_of_findSome?_eq_some hfault
    obtain ⟨hlhs, hrhs⟩ := hresolved production hproduction
    rw [Production.fault?, if_pos (mem_firstOccurrences.2 hlhs)] at hfault
    obtain ⟨symbol, hsymbol, hfault⟩ := List.exists_of_findSome?_eq_some hfault
    rw [Production.symbolFault?] at hfault
    split at hfault
    next hreserved =>
      cases hfault
      exact ⟨production, hproduction, symbol, hsymbol, hreserved, rfl⟩
    next =>
      rw [if_pos] at hfault
      · cases hfault
      · have hdeclared := hrhs symbol hsymbol
        simp only [mem_firstOccurrences, List.mem_append]
        exact hdeclared.imp_left .inl
  next => cases h

namespace Description

/-! ## Descriptions -/

/-- Why a description is refused, and the place in it that is to blame. -/
inductive Refuses (members : List (String × Json)) : DescriptionError → Prop
  | memberMissing {key : String}
      (hkey : key ∈ ["non_terminals", "terminals", "productions", "start"])
      (h : members.lookup key = none) : Refuses members (.memberMissing key)
  | memberNotIterable {key : String} {value : Json}
      (hkey : key ∈ ["non_terminals", "terminals", "productions"])
      (hvalue : members.lookup key = some value) (h : items? value = none) :
      Refuses members (.memberNotIterable value.kindName)
  /-- A list or an object is declared as a name. -/
  | declaration {list : String} {value : Json} (hlist : list ∈ ["non_terminals", "terminals"])
      (hvalue : value ∈ itemsAt members list) (h : IsCollection value) :
      Refuses members (.nameExpected value)
  | declaredTwice {names : List Name} (hnodup : (names.map Name.key).Nodup)
      (h : ∀ name ∈ names, ∀ list ∈ ["non_terminals", "terminals"],
        Declares members list name.key) : Refuses members (.declaredTwice names)
  | entryInvalid {entry : Json} (hentry : entry ∈ itemsAt members "productions")
      (h : entry.member? "lhs" = none) : Refuses members (.entryInvalid entry)
  /-- A list or an object stands where the name of a declared symbol is due. -/
  | mention {value : Json} (hvalue : Mentions members value) (h : IsCollection value) :
      Refuses members (.nameExpected value)
  | lhsUndeclared {entry : List (String × Json)} {value : Json}
      (hentry : .object entry ∈ itemsAt members "productions")
      (hvalue : entry.lookup "lhs" = some value) (h : Unknown members ["non_terminals"] value) :
      Refuses members (.lhsUndeclared value)
  | rightSide {entry : List (String × Json)} {value : Json}
      (hentry : .object entry ∈ itemsAt members "productions")
      (hvalue : entry.lookup "rhs" = some value) (h : items? value = none) :
      Refuses members (.sequenceExpected value)
  | nameUndeclared {entry : List (String × Json)} {value : Json}
      (hentry : .object entry ∈ itemsAt members "productions")
      (hvalue : value ∈ itemsAt entry "rhs")
      (h : Unknown members ["non_terminals", "terminals"] value) :
      Refuses members (.nameUndeclared value)
  | startUndeclared {value : Json} (hvalue : members.lookup "start" = some value)
      (h : Unknown members ["non_terminals"] value) : Refuses members (.startUndeclared value)
  /-- A production uses one of the two terminals that belong to every grammar. -/
  | reserved {nonTerminals terminals : List Name} {entry : Json} {result : Production}
      {symbol : Symbol} (hentry : entry ∈ itemsAt members "productions")
      (hresult : production nonTerminals terminals entry = .ok result)
      (hsymbol : symbol ∈ result.rhs) (h : symbol = .epsilon ∨ symbol = .endMark) :
      Refuses members (.inconsistent (.reservedSymbol result symbol))

section Refuses

variable {members : List (String × Json)} {error : DescriptionError}

theorem refuses_of_sequence {key : String}
    (hkey : key ∈ ["non_terminals", "terminals", "productions"])
    (h : sequence members key = .error error) : Refuses members error := by
  rcases sequence_eq_error h with ⟨hnone, rfl⟩ | ⟨value, hvalue, hitems, rfl⟩
  · exact .memberMissing (List.mem_append_left ["start"] hkey) hnone
  · exact .memberNotIterable hkey hvalue hitems

theorem refuses_of_declarations {list : String} (hlist : list ∈ ["non_terminals", "terminals"])
    (h : (itemsAt members list).mapM nameOf = .error error) : Refuses members error := by
  obtain ⟨value, hvalue, hname⟩ := mapM_eq_error h
  obtain ⟨hcollection, rfl⟩ := nameOf_eq_error hname
  exact .declaration hlist hvalue hcollection

/-- A table holds the names that a list declares. -/
def Tabulates (members : List (String × Json)) (list : String) (names : List Name) : Prop :=
  ∀ key, (∃ name ∈ names, name.key = key) ↔ Declares members list key

theorem tabulates_lastForms {list : String} {names : List Name}
    (h : (itemsAt members list).mapM nameOf = .ok names) :
    Tabulates members list (Name.lastForms names) := by
  intro key
  rw [Name.exists_mem_lastForms, exists_name_iff h]

theorem Tabulates.not_declares {list : String} {names : List Name}
    (h : Tabulates members list names) {key : Name.Key} (hnone : ∀ name ∈ names, name.key ≠ key) :
    ¬ Declares members list key := by
  rw [← h]
  rintro ⟨name, hname, hkey⟩
  exact hnone name hname hkey

variable {nonTerminals terminals : List Name}

theorem unknown_nonTerminal (hnonTerminals : Tabulates members "non_terminals" nonTerminals)
    {name : Name} (h : ∀ other ∈ nonTerminals, other.key ≠ name.key) :
    Unknown members ["non_terminals"] name.value := by
  intro other hother list hlist
  obtain rfl := List.mem_singleton.1 hlist
  rw [← Name.value_inj hother]
  exact hnonTerminals.not_declares h

theorem refuses_of_production {entry : Json}
    (hnonTerminals : Tabulates members "non_terminals" nonTerminals)
    (hterminals : Tabulates members "terminals" terminals)
    (hentry : entry ∈ itemsAt members "productions")
    (h : production nonTerminals terminals entry = .error error) : Refuses members error := by
  rcases production_eq_error h with
    ⟨hnone, rfl⟩ | ⟨entryMembers, rfl, ⟨lhs, hlhs, hleft⟩ | ⟨rhs, hrhs, hitems, rfl⟩ |
      ⟨value, hvalue, hsymbol⟩⟩
  · exact .entryInvalid hentry hnone
  · rcases hleft with ⟨hcollection, rfl⟩ | ⟨rfl, name, rfl, hunknown⟩
    · exact .mention (.lhs hentry hlhs) hcollection
    · exact .lhsUndeclared hentry hlhs (unknown_nonTerminal hnonTerminals hunknown)
  · exact .rightSide hentry hrhs hitems
  · rcases symbol_eq_error hsymbol with ⟨hcollection, rfl⟩ | ⟨rfl, name, rfl, hunknown, hunknown'⟩
    · exact .mention (.rhs hentry hvalue) hcollection
    · refine .nameUndeclared hentry hvalue ?_
      intro other hother list hlist
      rw [← Name.value_inj hother]
      rcases List.mem_pair.1 hlist with rfl | rfl
      · exact hnonTerminals.not_declares hunknown
      · exact hterminals.not_declares hunknown'

theorem refuses_of_build {productions : List Production} {start : Name}
    (hproductions :
      (itemsAt members "productions").mapM (production nonTerminals terminals) = .ok productions)
    (hstart : start ∈ nonTerminals)
    (h : checked (build (nonTerminals.map .nonTerminal) (terminals.map .terminal) productions
      (some (.nonTerminal start))) = .error error) : Refuses members error := by
  obtain ⟨-, hentries⟩ := exists_partners (mapM_eq_ok hproductions)
  cases hbuild : build (nonTerminals.map .nonTerminal) (terminals.map .terminal) productions
      (some (.nonTerminal start)) with
  | ok grammar =>
      rw [hbuild] at h
      cases h
  | error fault =>
      rw [hbuild] at h
      cases h
      have hresolved : ∀ result ∈ productions,
          result.Resolved (nonTerminals.map .nonTerminal) (terminals.map .terminal) := by
        intro result hresult
        obtain ⟨entry, -, hentry⟩ := hentries result hresult
        exact resolved_of_production hentry
      obtain ⟨result, hresult, symbol, hsymbol, hreserved, rfl⟩ :=
        build_eq_error (List.mem_map_of_mem hstart) hresolved hbuild
      obtain ⟨entry, hmem, hentry⟩ := hentries result hresult
      exact .reserved hmem hentry hsymbol hreserved

/-- Everything that can go wrong with a description. -/
theorem refuses_of_error (h : ofJson (.object members) = .error error) : Refuses members error := by
  -- The parts are peeled off in the order in which they are looked at.
  rw [ofJson, bind_eq_error] at h
  rcases h with h | ⟨nonTerminalItems, hnonTerminalItems, h⟩
  · exact refuses_of_sequence (by decide) h
  rcases bind_eq_error.1 h with h | ⟨terminalItems, hterminalItems, h⟩
  · exact refuses_of_sequence (by decide) h
  rcases bind_eq_error.1 h with h | ⟨entries, hentries, h⟩
  · exact refuses_of_sequence (by decide) h
  split at h
  next hstart =>
    cases h
    exact .memberMissing (by decide) hstart
  next start hstart =>
    obtain rfl := sequence_eq_ok hnonTerminalItems
    obtain rfl := sequence_eq_ok hterminalItems
    obtain rfl := sequence_eq_ok hentries
    rcases bind_eq_error.1 h with h | ⟨nonTerminalNames, hnonTerminalNames, h⟩
    · exact refuses_of_declarations (by decide) h
    rcases bind_eq_error.1 h with h | ⟨terminalNames, hterminalNames, h⟩
    · exact refuses_of_declarations (by decide) h
    split at h
    next name names htwice =>
      cases h
      refine .declaredTwice (htwice ▸ Name.nodup_shared _ _) ?_
      intro other hother list hlist
      obtain ⟨hnonTerminal, hterminal⟩ := Name.of_mem_shared (htwice ▸ hother)
      rcases List.mem_pair.1 hlist with rfl | rfl
      · exact (exists_name_iff hnonTerminalNames).1 hnonTerminal
      · exact (exists_name_iff hterminalNames).1 hterminal
    next =>
      have hnonTerminals := tabulates_lastForms hnonTerminalNames
      have hterminals := tabulates_lastForms hterminalNames
      rcases bind_eq_error.1 h with h | ⟨productions, hproductions, h⟩
      · obtain ⟨entry, hentry, h⟩ := mapM_eq_error h
        exact refuses_of_production hnonTerminals hterminals hentry h
      rcases bind_eq_error.1 h with h | ⟨found, hfound, h⟩
      · obtain ⟨hcollection, rfl⟩ := namedNonTerminal?_eq_error h
        exact .mention (.start hstart) hcollection
      obtain ⟨name, rfl, ⟨declared, hdeclared, -, rfl⟩ | ⟨rfl, hunknown⟩⟩ :=
        namedNonTerminal?_eq_ok hfound
      · exact refuses_of_build hproductions hdeclared h
      · cases h
        exact .startUndeclared hstart (unknown_nonTerminal hnonTerminals hunknown)

end Refuses

/-- Why a value describes no grammar: it is no object, or it is refused as a description. -/
inductive Disqualifies : Json → DescriptionError → Prop
  | notAnObject {value : Json} (h : ∀ members, value ≠ .object members) :
      Disqualifies value .notAnObject
  | refused {members : List (String × Json)} {error : DescriptionError}
      (h : Refuses members error) : Disqualifies (.object members) error

/-- Every error has a reason in the value. -/
theorem disqualifies_of_error {value : Json} {error : DescriptionError}
    (h : ofJson value = .error error) : Disqualifies value error := by
  cases value with
  | object members => exact .refused (refuses_of_error h)
  | _ =>
      obtain rfl : DescriptionError.notAnObject = error := Except.error.inj h
      exact .notAnObject (by simp)

/-! ## Errors without a report -/

/-- What there can be in a description that keeps an error from being reported. -/
inductive Unreportable (members : List (String × Json)) : Prop
  /-- A list or an object is declared as a name. -/
  | declaration {list : String} {value : Json} (hlist : list ∈ ["non_terminals", "terminals"])
      (hvalue : value ∈ itemsAt members list) (h : IsCollection value)
  /-- A list or an object stands where the name of a declared symbol is due. -/
  | mention {value : Json} (hvalue : Mentions members value) (h : IsCollection value)
  /-- The right side of a production is given and is no sequence. -/
  | rightSide {entry : List (String × Json)} {value : Json}
      (hentry : .object entry ∈ itemsAt members "productions")
      (hvalue : entry.lookup "rhs" = some value) (h : items? value = none)
  /-- Two different names are declared twice over, and they cannot be compared. -/
  | mixedNames {name other : Name} (hkeys : name.key ≠ other.key)
      (h : name.comparable other = false)
      (hdeclared : ∀ list ∈ ["non_terminals", "terminals"],
        Declares members list name.key ∧ Declares members list other.key)
  /-- A production with a reserved symbol on its right mentions a name that is no text; it cannot be
  written. -/
  | mixedProduction {entry : List (String × Json)} {reserved : String} {name : Name}
      (hentry : .object entry ∈ itemsAt members "productions")
      (hreserved : reserved = "ε" ∨ reserved = "$")
      (hvalue : .text reserved ∈ itemsAt entry "rhs")
      (hname : entry.lookup "lhs" = some name.value ∨ name.value ∈ itemsAt entry "rhs")
      (h : ∀ text, name ≠ .text text)

/-- A symbol that cannot be written has a name that is no text. -/
theorem ne_text_of_symbol_text {symbol : Symbol} {name : Name} (h : symbol.text = .error name) :
    ∀ text, symbol.name ≠ .text text := by
  intro text hname
  rw [Symbol.text, hname] at h
  cases h

/-- A production that cannot be written has a symbol whose name is no text. -/
theorem exists_ne_text_of_text {production : Production} {name : Name}
    (h : production.text = .error name) :
    ∃ symbol ∈ production.lhs :: production.rhs, ∀ text, symbol.name ≠ .text text := by
  rw [Production.text, bind_eq_error] at h
  rcases h with hlhs | ⟨lhs, -, h⟩
  · exact ⟨_, List.mem_cons_self, ne_text_of_symbol_text hlhs⟩
  · rcases bind_eq_error.1 h with hrhs | ⟨rhs, -, h⟩
    · obtain ⟨symbol, hsymbol, herror⟩ := mapM_eq_error hrhs
      rw [Production.shownRhs] at hsymbol
      split at hsymbol
      next =>
        -- The sign for the empty word can be written.
        obtain rfl := List.mem_singleton.1 hsymbol
        cases herror
      next => exact ⟨symbol, List.mem_cons_of_mem _ hsymbol, ne_text_of_symbol_text herror⟩
    · cases h

/-- The symbols of a production are named in its entry. -/
theorem exists_value_of_production {nonTerminals terminals : List Name} {entry : Json}
    {result : Production} (h : production nonTerminals terminals entry = .ok result) :
    ∃ members, entry = .object members ∧
      (∃ name : Name, members.lookup "lhs" = some name.value ∧ name.key = result.lhs.name.key) ∧
      ∀ symbol ∈ result.rhs, ∃ name : Name, name.value ∈ itemsAt members "rhs" ∧
        name.key = symbol.name.key := by
  obtain ⟨members, declared, name, rfl, hlookup, -, hkey, hlhs, hrhs⟩ := production_eq_ok h
  refine ⟨members, rfl, ⟨name, hlookup, by rw [hlhs]; exact hkey.symm⟩, ?_⟩
  intro symbol hsymbol
  obtain ⟨value, hvalue, hfound⟩ := (exists_partners hrhs).2 symbol hsymbol
  obtain ⟨other, rfl, hother, -⟩ := symbol_eq_ok hfound
  exact ⟨other, hvalue, hother.symm⟩

/-- A reason to refuse a description is reported, unless the description holds something that keeps
it from being reported. -/
theorem Refuses.exists_report {members : List (String × Json)} {error : DescriptionError}
    (h : Refuses members error) :
    (∃ message, error.report? = some message) ∨ Unreportable members := by
  cases h with
  | memberMissing => exact .inl ⟨_, rfl⟩
  | memberNotIterable => exact .inl ⟨_, rfl⟩
  | declaration hlist hvalue h => exact .inr (.declaration hlist hvalue h)
  | @declaredTwice names hnodup h =>
      cases hclash : Name.clash? names with
      | none =>
          rw [DescriptionError.report?, Name.sort, hclash]
          exact .inl ⟨_, rfl⟩
      | some clash =>
          obtain ⟨hsublist, hincomparable⟩ := Name.sublist_of_clash hclash
          have hkeys : clash.right.key ≠ clash.left.key := by
            simpa using (hsublist.map Name.key).nodup hnodup
          have hmem := hsublist.subset
          refine .inr (.mixedNames hkeys hincomparable fun list hlist => ⟨?_, ?_⟩)
          · exact h _ (hmem List.mem_cons_self) list hlist
          · exact h _ (hmem (List.mem_cons_of_mem _ List.mem_cons_self)) list hlist
  | entryInvalid => exact .inl ⟨_, rfl⟩
  | mention hvalue h => exact .inr (.mention hvalue h)
  | lhsUndeclared => exact .inl ⟨_, rfl⟩
  | rightSide hentry hvalue h => exact .inr (.rightSide hentry hvalue h)
  | nameUndeclared => exact .inl ⟨_, rfl⟩
  | startUndeclared => exact .inl ⟨_, rfl⟩
  | @reserved nonTerminals terminals entry result symbol hentry hresult hsymbol h =>
      obtain ⟨text, htext, hreserved⟩ :
          ∃ text, symbol.name = .text text ∧ (text = "ε" ∨ text = "$") := by
        rcases h with rfl | rfl
        · exact ⟨_, rfl, .inl rfl⟩
        · exact ⟨_, rfl, .inr rfl⟩
      cases hwritten : result.text with
      | ok written =>
          rw [DescriptionError.report?, GrammarError.report, hwritten, Symbol.text, htext]
          exact .inl ⟨_, rfl⟩
      | error name =>
          obtain ⟨members, rfl, ⟨lhs, hlhs, hlhsKey⟩, hrhs⟩ := exists_value_of_production hresult
          obtain ⟨mention, hmention, hmentionKey⟩ := hrhs symbol hsymbol
          rw [htext] at hmentionKey
          obtain rfl := Name.key_eq_text_iff.1 hmentionKey
          -- A name in the entry is a text only if the symbol that it names is named by one.
          have hkeys : ∀ {name other : Name}, name.key = other.key →
              (∀ text, other ≠ .text text) → ∀ text, name ≠ .text text := by
            rintro name other hkey hother text rfl
            exact hother text (Name.key_eq_text_iff.1 hkey.symm)
          obtain ⟨other, hother, hname⟩ := exists_ne_text_of_text hwritten
          right
          rcases List.mem_cons.1 hother with rfl | hother
          · exact .mixedProduction hentry hreserved hmention (.inl hlhs) (hkeys hlhsKey hname)
          · obtain ⟨item, hitem, hitemKey⟩ := hrhs other hother
            exact .mixedProduction hentry hreserved hmention (.inr hitem) (hkeys hitemKey hname)

/-- Only in an object there can be something that keeps an error from being reported. -/
theorem Disqualifies.exists_report {value : Json} {error : DescriptionError}
    (h : Disqualifies value error) :
    (∃ message, error.report? = some message) ∨
      ∃ members, value = .object members ∧ Unreportable members := by
  cases h with
  | notAnObject => exact .inl ⟨_, rfl⟩
  | refused h => exact h.exists_report.imp_right fun hunreportable => ⟨_, rfl, hunreportable⟩

end Description

end GrammarWorkbench.Grammar
