/-
Reading JSON texts with and without checks.

* `Passes` — a value that the checks of its objects and constants accept;
* `loads_sound` — a text that is accepted is read alike without checks, and passes;
* `loads_follows` — a text that fewer checks accept is accepted if its value passes.
-/
import SupplyResponse.Text.JsonScan

namespace Text

variable {ε α : Type} {checks : ParseChecks ε} {cs : List Char}

/-- Every object and every constant of a value is accepted. -/
structure Passes (checks : ParseChecks ε) (value : PyValue) : Prop where
  pairs : ∀ fields, PyValue.Within (.dict fields) value → checks.pairs fields = .ok ()
  constant : ∀ name, PyValue.Within (.constant name) value → checks.constant name = .ok ()

theorem Passes.of_item {items : List PyValue} (h : Passes checks (.list items)) {value : PyValue}
    (hvalue : value ∈ items) : Passes checks value where
  pairs fields hwithin := h.pairs fields (.item hvalue hwithin)
  constant name hwithin := h.constant name (.item hvalue hwithin)

theorem Passes.of_field {fields : List (Codes × PyValue)} (h : Passes checks (.dict fields))
    {field : Codes × PyValue} (hfield : field ∈ fields) : Passes checks field.2 where
  pairs inner hwithin := h.pairs inner (.field hfield hwithin)
  constant name hwithin := h.constant name (.field hfield hwithin)

theorem Passes.list {items : List PyValue} (h : ∀ value ∈ items, Passes checks value) :
    Passes checks (.list items) where
  pairs fields hwithin := by
    cases hwithin with
    | item hvalue hwithin => exact (h _ hvalue).pairs fields hwithin
  constant name hwithin := by
    cases hwithin with
    | item hvalue hwithin => exact (h _ hvalue).constant name hwithin

theorem Passes.dict {fields : List (Codes × PyValue)} (h : ∀ field ∈ fields, Passes checks field.2)
    (hpairs : checks.pairs fields = .ok ()) : Passes checks (.dict fields) where
  pairs inner hwithin := by
    cases hwithin with
    | refl => exact hpairs
    | field hfield hwithin => exact (h _ hfield).pairs inner hwithin
  constant name hwithin := by
    cases hwithin with
    | field hfield hwithin => exact (h _ hfield).constant name hwithin

/-- A value without parts is accepted if it is no rejected constant. -/
theorem Passes.leaf {value : PyValue} (hlist : ∀ items, value ≠ .list items)
    (hdict : ∀ fields, value ≠ .dict fields)
    (hconstant : ∀ name, value = .constant name → checks.constant name = .ok ()) :
    Passes checks value where
  pairs fields hwithin := by
    cases hwithin with
    | refl => exact absurd rfl (hdict fields)
    | item _ _ => exact absurd rfl (hlist _)
    | field _ _ => exact absurd rfl (hdict _)
  constant name hwithin := by
    cases hwithin with
    | refl => exact hconstant name rfl
    | item _ _ => exact absurd rfl (hlist _)
    | field _ _ => exact absurd rfl (hdict _)

/-! ### From checked to unchecked -/

variable {close : Char}

theorem parseElements_sound {element : List Char → Except ε (α × List Char)}
    {element' : List Char → Except Unit (α × List Char)} {Q : α → Prop}
    (helement : ∀ {cs read}, element cs = .ok read → element' cs = .ok read ∧ Q read.1)
    {fuel : ℕ} {read : List α × List Char}
    (h : parseElements checks close element fuel cs = .ok read) :
    parseElements noChecks close element' fuel cs = .ok read ∧ ∀ a ∈ read.1, Q a := by
  induction fuel generalizing cs read with
  | zero => cases h
  | succ fuel ih =>
    unfold parseElements at h ⊢
    obtain ⟨first, hfirst, h⟩ := except_bind_eq_ok.mp h
    obtain ⟨hfirst', hQ⟩ := helement hfirst
    rw [except_bind_eq_ok]
    split at h
    · cases h
    · rename_i c rest hrest
      split at h
      · rename_i hclose
        obtain rfl := Except.ok.inj h
        refine ⟨⟨first, hfirst', ?_⟩, fun a ha => List.mem_singleton.mp ha ▸ hQ⟩
        rw [hrest]
        exact if_pos hclose
      · rename_i hclose
        split at h
        · rename_i hcomma
          obtain ⟨others, hothers, h⟩ := except_bind_eq_ok.mp h
          obtain rfl := Except.ok.inj h
          obtain ⟨hothers', hall⟩ := ih hothers
          refine ⟨⟨first, hfirst', ?_⟩, fun a ha => ?_⟩
          · rw [hrest]
            show (if c = close then _ else if c = ',' then _ else _) = _
            rw [if_neg hclose, if_pos hcomma, except_bind_eq_ok]
            exact ⟨others, hothers', rfl⟩
          · rcases List.mem_cons.mp ha with rfl | ha
            · exact hQ
            · exact hall a ha
        · cases h

theorem parseSequence_sound {element : List Char → Except ε (α × List Char)}
    {element' : List Char → Except Unit (α × List Char)} {Q : α → Prop}
    (helement : ∀ {cs read}, element cs = .ok read → element' cs = .ok read ∧ Q read.1)
    {read : List α × List Char} (h : parseSequence checks close element cs = .ok read) :
    parseSequence noChecks close element' cs = .ok read ∧ ∀ a ∈ read.1, Q a := by
  unfold parseSequence at h ⊢
  split at h
  · cases h
  · rename_i c rest hrest
    split at h
    · rename_i hclose
      obtain rfl := Except.ok.inj h
      exact ⟨if_pos hclose, nofun⟩
    · rename_i hclose
      obtain ⟨hread, hall⟩ := parseElements_sound helement h
      rw [if_neg hclose]
      exact ⟨hread, hall⟩

theorem parseField_sound {value : List Char → Except ε (α × List Char)}
    {value' : List Char → Except Unit (α × List Char)} {Q : α → Prop}
    (hvalue : ∀ {cs read}, value cs = .ok read → value' cs = .ok read ∧ Q read.1)
    {read : (Codes × α) × List Char} (h : parseField checks value cs = .ok read) :
    parseField noChecks value' cs = .ok read ∧ Q read.1.2 := by
  unfold parseField at h
  split at h
  · rename_i rest
    obtain ⟨key, hkey, h⟩ := except_bind_eq_ok.mp h
    have hkey' := lift_eq_ok.mp hkey
    split at h
    · rename_i after hafter
      obtain ⟨read, hread, h⟩ := except_bind_eq_ok.mp h
      obtain rfl := Except.ok.inj h
      obtain ⟨hread', hQ⟩ := hvalue hread
      refine ⟨?_, hQ⟩
      show (noChecks.lift (readString rest) >>= _) = _
      rw [hkey', except_bind_eq_ok]
      refine ⟨key, rfl, ?_⟩
      rw [hafter]
      show (value' (skipSpace after) >>= _) = _
      rw [hread']
      rfl
    · cases h
  · cases h

theorem parseScalar_sound {read : PyValue × List Char} (h : parseScalar checks cs = .ok read) :
    parseScalar noChecks cs = .ok read ∧ Passes checks read.1 := by
  unfold parseScalar at h ⊢
  split at h
  · rename_i word hword
    obtain rfl := Except.ok.inj h
    refine ⟨rfl, ?_⟩
    obtain ⟨entry, hentry, hfound⟩ := List.exists_of_findSome?_eq_some hword
    split at hfound
    · obtain rfl := Option.some.inj hfound
      simp only [jsonWords, List.mem_cons, List.not_mem_nil, or_false] at hentry
      rcases hentry with rfl | rfl | rfl <;> exact .leaf nofun nofun nofun
    · cases hfound
  · split at h
    · rename_i word hword
      obtain ⟨_, hconstant, h⟩ := except_bind_eq_ok.mp h
      obtain rfl := Except.ok.inj h
      refine ⟨rfl, .leaf nofun nofun ?_⟩
      rintro name hname
      rw [← PyValue.constant.inj hname]
      exact hconstant
    · unfold parseNumber at h ⊢
      obtain ⟨number, hnumber, h⟩ := except_bind_eq_ok.mp h
      show (noChecks.lift (readNumber cs) >>= _) = _ ∧ _
      rw [lift_eq_ok.mp hnumber]
      show (if number.1.isInt = true then _ else _) = _ ∧ _
      split at h
      · rename_i hint
        obtain ⟨_, -, h⟩ := except_bind_eq_ok.mp h
        obtain rfl := Except.ok.inj h
        rw [if_pos hint]
        exact ⟨rfl, .leaf (by rintro _ ⟨⟩) (by rintro _ ⟨⟩) (by rintro _ ⟨⟩)⟩
      · rename_i hint
        obtain rfl := Except.ok.inj h
        rw [if_neg hint]
        exact ⟨rfl, .leaf (by rintro _ ⟨⟩) (by rintro _ ⟨⟩) (by rintro _ ⟨⟩)⟩

theorem parseValue_sound {fuel : ℕ} {read : PyValue × List Char}
    (h : parseValue checks fuel cs = .ok read) :
    parseValue noChecks fuel cs = .ok read ∧ Passes checks read.1 := by
  induction fuel generalizing cs read with
  | zero => cases h
  | succ fuel ih =>
    cases cs with
    | nil => cases h
    | cons c rest =>
      unfold parseValue at h ⊢
      split at h
      · rename_i hquote
        obtain ⟨string, hstring, h⟩ := except_bind_eq_ok.mp h
        obtain rfl := Except.ok.inj h
        rw [if_pos hquote, lift_eq_ok.mp hstring]
        exact ⟨rfl, .leaf (by rintro _ ⟨⟩) (by rintro _ ⟨⟩) (by rintro _ ⟨⟩)⟩
      · rename_i hquote
        rw [if_neg hquote]
        split at h
        · rename_i hbrace
          obtain ⟨fields, hfields, h⟩ := except_bind_eq_ok.mp h
          obtain ⟨_, hpairs, h⟩ := except_bind_eq_ok.mp h
          obtain rfl := Except.ok.inj h
          obtain ⟨hfields', hall⟩ := @parseSequence_sound _ _ _ _ _ _ _
            (fun field => Passes checks field.2)
            (fun hread => parseField_sound (fun hvalue => ih hvalue) hread) _ hfields
          rw [if_pos hbrace, hfields']
          exact ⟨rfl, .dict hall hpairs⟩
        · rename_i hbrace
          rw [if_neg hbrace]
          split at h
          · rename_i hbracket
            obtain ⟨items, hitems, h⟩ := except_bind_eq_ok.mp h
            obtain rfl := Except.ok.inj h
            obtain ⟨hitems', hall⟩ := parseSequence_sound (fun hvalue => ih hvalue) hitems
            rw [if_pos hbracket, hitems']
            exact ⟨rfl, .list hall⟩
          · rename_i hbracket
            rw [if_neg hbracket]
            exact parseScalar_sound h

/-- A text that is accepted denotes what it denotes without checks, and that passes. -/
theorem loads_sound {text : List Char} {value : PyValue} (h : loads checks text = .ok value) :
    loads noChecks text = .ok value ∧ Passes checks value := by
  unfold loads at h ⊢
  split at h
  · cases h
  · rename_i hbom
    obtain ⟨read, hread, h⟩ := except_bind_eq_ok.mp h
    obtain ⟨hread', hpasses⟩ := parseValue_sound hread
    rw [if_neg hbom, hread']
    split at h
    · rename_i hend
      obtain rfl := Except.ok.inj h
      exact ⟨if_pos hend, hpasses⟩
    · cases h

/-! ### From fewer checks to more -/

variable {δ : Type} {base : ParseChecks δ} {mayFail : Prop}

/-- A result is the given one, or something is malformed where that may be. -/
def Follows {β : Type} (mayFail : Prop) (checks : ParseChecks ε) (x : Except ε β) (b : β) : Prop :=
  x = .ok b ∨ mayFail ∧ x = .error checks.malformed

theorem Follows.bind {β γ : Type} {x : Except ε β} {b : β} {f : β → Except ε γ} {c : γ}
    (h : Follows mayFail checks x b) (hf : Follows mayFail checks (f b) c) :
    Follows mayFail checks (x >>= f) c := by
  rcases h with rfl | ⟨hmay, rfl⟩
  · exact hf
  · exact .inr ⟨hmay, rfl⟩

theorem Follows.lift {β : Type} {o : Option β} {b : β} (h : base.lift o = .ok b) :
    Follows mayFail checks (checks.lift o) b :=
  .inl (lift_eq_ok.mpr (lift_eq_ok.mp h))

theorem Follows.eq_ok {β : Type} {x : Except ε β} {b : β} (h : Follows False checks x b) :
    x = .ok b := by
  rcases h with h | ⟨hfalse, -⟩
  · exact h
  · exact hfalse.elim

theorem parseElements_follows {element : List Char → Except ε (α × List Char)}
    {element' : List Char → Except δ (α × List Char)} {Q : α → Prop}
    (helement : ∀ {cs read}, element' cs = .ok read → Q read.1 → Follows mayFail checks (element cs) read)
    {fuel : ℕ} {read : List α × List Char}
    (h : parseElements base close element' fuel cs = .ok read) (hQ : ∀ a ∈ read.1, Q a) :
    Follows mayFail checks (parseElements checks close element fuel cs) read := by
  induction fuel generalizing cs read with
  | zero => cases h
  | succ fuel ih =>
    unfold parseElements at h ⊢
    obtain ⟨first, hfirst, h⟩ := except_bind_eq_ok.mp h
    split at h
    · cases h
    · rename_i c rest hrest
      split at h
      · rename_i hclose
        obtain rfl := Except.ok.inj h
        refine (helement hfirst (hQ _ (List.mem_cons_self ..))).bind ?_
        rw [hrest]
        exact .inl (if_pos hclose)
      · rename_i hclose
        split at h
        · rename_i hcomma
          obtain ⟨others, hothers, h⟩ := except_bind_eq_ok.mp h
          obtain rfl := Except.ok.inj h
          refine (helement hfirst (hQ _ (List.mem_cons_self ..))).bind ?_
          rw [hrest]
          show Follows mayFail checks (if c = close then _ else if c = ',' then _ else _) _
          rw [if_neg hclose, if_pos hcomma]
          exact (ih hothers fun a ha => hQ a (List.mem_cons_of_mem _ ha)).bind (.inl rfl)
        · cases h

theorem parseSequence_follows {element : List Char → Except ε (α × List Char)}
    {element' : List Char → Except δ (α × List Char)} {Q : α → Prop}
    (helement : ∀ {cs read}, element' cs = .ok read → Q read.1 → Follows mayFail checks (element cs) read)
    {read : List α × List Char} (h : parseSequence base close element' cs = .ok read)
    (hQ : ∀ a ∈ read.1, Q a) : Follows mayFail checks (parseSequence checks close element cs) read := by
  unfold parseSequence at h ⊢
  split at h
  · cases h
  · rename_i c rest hrest
    split at h
    · rename_i hclose
      obtain rfl := Except.ok.inj h
      exact .inl (if_pos hclose)
    · rename_i hclose
      rw [if_neg hclose]
      exact parseElements_follows helement h hQ

theorem parseField_follows {value : List Char → Except ε (α × List Char)}
    {value' : List Char → Except δ (α × List Char)} {Q : α → Prop}
    (hvalue : ∀ {cs read}, value' cs = .ok read → Q read.1 → Follows mayFail checks (value cs) read)
    {read : (Codes × α) × List Char} (h : parseField base value' cs = .ok read)
    (hQ : Q read.1.2) : Follows mayFail checks (parseField checks value cs) read := by
  unfold parseField at h
  split at h
  · rename_i rest
    obtain ⟨key, hkey, h⟩ := except_bind_eq_ok.mp h
    split at h
    · rename_i after hafter
      obtain ⟨read, hread, h⟩ := except_bind_eq_ok.mp h
      obtain rfl := Except.ok.inj h
      refine (Follows.lift hkey).bind ?_
      rw [hafter]
      exact (hvalue hread hQ).bind (.inl rfl)
    · cases h
  · cases h

/-- An integer that `base` accepts is accepted, or malformed where that may be. -/
def IntsFollow (mayFail : Prop) (base : ParseChecks δ) (checks : ParseChecks ε) : Prop :=
  ∀ digits, base.int digits = .ok () → Follows mayFail checks (checks.int digits) ()

theorem parseScalar_follows (hint : IntsFollow mayFail base checks) {read : PyValue × List Char}
    (h : parseScalar base cs = .ok read) (hpasses : Passes checks read.1) :
    Follows mayFail checks (parseScalar checks cs) read := by
  unfold parseScalar at h ⊢
  split at h
  · exact .inl (by rw [Except.ok.inj h])
  · split at h
    · rename_i word hword
      obtain ⟨_, -, h⟩ := except_bind_eq_ok.mp h
      obtain rfl := Except.ok.inj h
      have hconstant : Follows mayFail checks (checks.constant word.1) () :=
        .inl (hpasses.constant word.1 .refl)
      exact hconstant.bind (.inl rfl)
    · unfold parseNumber at h ⊢
      obtain ⟨number, hnumber, h⟩ := except_bind_eq_ok.mp h
      refine (Follows.lift hnumber).bind ?_
      split at h
      · rename_i hisInt
        obtain ⟨_, hok, h⟩ := except_bind_eq_ok.mp h
        obtain rfl := Except.ok.inj h
        rw [if_pos hisInt]
        exact (hint number.1.digits hok).bind (.inl rfl)
      · rename_i hisInt
        obtain rfl := Except.ok.inj h
        rw [if_neg hisInt]
        exact .inl rfl

theorem parseValue_follows (hint : IntsFollow mayFail base checks) {fuel : ℕ} {read : PyValue × List Char}
    (h : parseValue base fuel cs = .ok read) (hpasses : Passes checks read.1) :
    Follows mayFail checks (parseValue checks fuel cs) read := by
  induction fuel generalizing cs read with
  | zero => cases h
  | succ fuel ih =>
    cases cs with
    | nil => cases h
    | cons c rest =>
      unfold parseValue at h ⊢
      split at h
      · rename_i hquote
        obtain ⟨string, hstring, h⟩ := except_bind_eq_ok.mp h
        obtain rfl := Except.ok.inj h
        rw [if_pos hquote]
        exact (Follows.lift hstring).bind (.inl rfl)
      · rename_i hquote
        rw [if_neg hquote]
        split at h
        · rename_i hbrace
          obtain ⟨fields, hfields, h⟩ := except_bind_eq_ok.mp h
          obtain ⟨_, -, h⟩ := except_bind_eq_ok.mp h
          obtain rfl := Except.ok.inj h
          rw [if_pos hbrace]
          have hfollows := @parseSequence_follows _ _ checks _ '}' _ base mayFail _ _
            (fun field => Passes checks field.2)
            (fun hread hfield => parseField_follows (fun hvalue hv => ih hvalue hv) hread hfield)
            _ hfields (fun field hfield => hpasses.of_field hfield)
          have hpairs : Follows mayFail checks (checks.pairs fields.1) () :=
            .inl (hpasses.pairs fields.1 .refl)
          exact hfollows.bind (hpairs.bind (.inl rfl))
        · rename_i hbrace
          rw [if_neg hbrace]
          split at h
          · rename_i hbracket
            obtain ⟨items, hitems, h⟩ := except_bind_eq_ok.mp h
            obtain rfl := Except.ok.inj h
            rw [if_pos hbracket]
            have hfollows := @parseSequence_follows _ _ checks _ ']' _ base mayFail _ _
              (Passes checks)
              (fun hvalue hv => ih hvalue hv) _ hitems (fun value hvalue => hpasses.of_item hvalue)
            exact hfollows.bind (.inl rfl)
          · rename_i hbracket
            rw [if_neg hbracket]
            exact parseScalar_follows hint h hpasses

/-- A text that fewer checks accept, with a value that passes, is accepted. -/
theorem loads_follows (hint : IntsFollow mayFail base checks) {text : List Char} {value : PyValue}
    (h : loads base text = .ok value) (hpasses : Passes checks value) :
    Follows mayFail checks (loads checks text) value := by
  unfold loads at h ⊢
  split at h
  · cases h
  · rename_i hbom
    obtain ⟨read, hread, h⟩ := except_bind_eq_ok.mp h
    rw [if_neg hbom]
    split at h
    · rename_i hend
      obtain rfl := Except.ok.inj h
      refine (parseValue_follows hint hread hpasses).bind ?_
      rw [if_pos hend]
      exact .inl rfl
    · cases h

end Text
