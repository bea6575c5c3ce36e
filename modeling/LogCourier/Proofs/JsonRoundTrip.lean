import LogCourier.Proofs.JsonScanning
import LogCourier.Proofs.Utf8Text

/-!
# Documents are read back

Every document of a tree is read as this tree (`Json.read_of_written`). So a tree of strings, whole
numbers, truth values and nulls is read back from its text (`Json.read_print`), whatever
characters its strings have.

The characters of a document denote the tree (`Json.Denotes`): the scanner cuts them into units from
which the builder makes the tree, whatever it is in the middle of. That this passes from the items
of an array and the members of an object to the whole is one lemma about parts that are separated
by commas (`exists_units_of_parts`).
-/

namespace LogCourier.Json

/-! ### Building a tree -/

/-- From the units the first builder becomes the second, wherever in a document they stand. -/
def Builder.Runs (us : List Lexeme) (b b' : Builder) : Prop :=
  ∀ ps : List Placed, ps.map Placed.lexeme = us → ps.foldlM step b = .ok b'

namespace Builder

variable {b b' b'' : Builder} {l : Lexeme} {us us' : List Lexeme}

theorem runs_nil (b : Builder) :
  Runs [] b b
  := by
  intro ps hps
  obtain rfl := List.map_eq_nil_iff.mp hps
  rfl

theorem runs_single (h : ∀ u : Placed, u.lexeme = l → b.step u = .ok b') :
  Runs [l] b b'
  := by
  intro ps hps
  obtain ⟨u, rfl, hu⟩ := List.map_eq_singleton_iff.mp hps
  rw [List.foldlM_cons, h u hu]
  rfl

theorem Runs.append (h : Runs us b b') (h' : Runs us' b' b'') :
  Runs (us ++ us') b b''
  := by
  intro ps hps
  obtain ⟨ps₁, ps₂, rfl, h₁, h₂⟩ := List.map_eq_append_iff.mp hps
  rw [List.foldlM_append, h ps₁ h₁]
  exact h' ps₂ h₂

end Builder

/-- A value may come next. -/
inductive Expecting.TakesValue : Expecting → Prop
  | value : TakesValue .value
  | itemOrEnd : TakesValue .itemOrEnd
  | item : TakesValue .item

/-- The units make up the tree, wherever a value may come. -/
def Builds (us : List Lexeme) (v : Json) : Prop :=
  ∀ (stack : List Frame) (e : Expecting), e.TakesValue →
    Builder.Runs us ⟨stack, e⟩ (Builder.complete v stack)

/-- The characters are a text of the tree. -/
def Denotes (cs : List Char) (v : Json) : Prop :=
  ∃ us, Lexes cs us ∧ Builds us v

variable {cs : List Char} {us : List Lexeme} {v : Json}

/-- A unit that starts a value starts it wherever a value may come. -/
theorem runs_of_startValue {stack : List Frame} {e : Expecting} {b : Builder} {l : Lexeme}
    (he : e.TakesValue) (hl : l ≠ .closeArray)
    (h : ∀ start stop lone, Builder.startValue stack ⟨start, stop, l, lone⟩ = .ok b) :
  Builder.Runs [l] ⟨stack, e⟩ b
  := by
  apply Builder.runs_single
  intro u hu
  obtain ⟨start, stop, l', lone⟩ := u
  obtain rfl : l' = l := hu
  have hstep : Builder.step ⟨stack, e⟩ ⟨start, stop, l', lone⟩
      = Builder.startValue stack ⟨start, stop, l', lone⟩ := by
    cases he <;> cases l' <;> first | rfl | exact absurd rfl hl
  exact hstep.trans (h start stop lone)

/-- A unit that is a value makes up this value. -/
theorem builds_single {l : Lexeme} (hl : l ≠ .closeArray)
    (h : ∀ stack start stop lone,
      Builder.startValue stack ⟨start, stop, l, lone⟩ = .ok (Builder.complete v stack)) :
  Builds [l] v
  := fun stack _ he => runs_of_startValue he hl (h stack)

theorem Denotes.spaced {before after : List Char} (hbefore : IsSpaces before) (h : Denotes cs v)
    (hafter : IsSpaces after) :
  Denotes (before ++ cs ++ after) v
  := by
  obtain ⟨us, hlexes, hbuilds⟩ := h
  exact ⟨us, ((closes_spaces hbefore).append_lexes hlexes).spaces hafter, hbuilds⟩

theorem denotes_number (h : IsNumber cs) :
  Denotes cs (ofSpelling cs)
  := by
  refine ⟨_, lexes_number h, builds_single ?_ ?_⟩
  · rw [numberLexeme]
    split <;> nofun
  · intro stack start stop lone
    rw [numberLexeme, ofSpelling]
    split <;> rfl

/-- White space between an opening and a closing mark is a document of a tree if the marks lead the
builder to it. -/
theorem denotes_empty {spaces : List Char} {opener closer : Char} {l l' : Lexeme}
    (hl : Punctuates opener l) (hl' : Punctuates closer l') (hspaces : IsSpaces spaces)
    (hruns : ∀ stack e, Expecting.TakesValue e →
      Builder.Runs [l, l'] ⟨stack, e⟩ (Builder.complete v stack)) :
  Denotes (opener :: spaces ++ [closer]) v
  := ⟨[l, l'], (((closes_mark hl).append (closes_spaces hspaces)).lexes.mark hl').lexes, hruns⟩

/-! ### Parts with commas between them -/

theorem separated_cons (part : List Char) (parts : List (List Char)) :
  separated (part :: parts) = part ++ parts.flatMap fun p => ',' :: p
  := by
  induction parts generalizing part with
  | nil => simp [separated]
  | cons p parts ih =>
      have hparts := ih p
      rw [separated] at hparts
      rw [separated, List.intersperse_cons_cons, List.flatten_cons, List.flatten_cons, hparts,
        List.flatMap_cons]
      rfl

section Parts

variable {β : Type} {chars : β → List Char} {b : List Frame → List β → Builder} {parts : List β}

/-- More parts after some characters: the units of each part with a comma before it make the
builder go on by the part, so the units of all of them make it go on by all of them. -/
theorem exists_units_of_parts
    (h : ∀ p ∈ parts, ∃ us, Lexes (chars p) us ∧ ∀ stack q before,
      Builder.Runs (.comma :: us) (b stack (q :: before)) (b stack (p :: q :: before))) :
  ∃ us, (∀ cs₀ us₀, Lexes cs₀ us₀ →
      Lexes (cs₀ ++ parts.flatMap fun p => ',' :: chars p) (us₀ ++ us))
    ∧ ∀ stack q before, Builder.Runs us (b stack (q :: before))
        (b stack (parts.reverse ++ q :: before))
  := by
  induction parts with
  | nil =>
      refine ⟨[], ?_, fun _ _ _ => Builder.runs_nil _⟩
      intro cs₀ us₀ h₀
      rwa [List.flatMap_nil, List.append_nil, List.append_nil]
  | cons p parts ih =>
      rw [List.forall_mem_cons] at h
      obtain ⟨⟨us, hlexes, hruns⟩, hrest⟩ := h
      obtain ⟨us', hlexes', hruns'⟩ := ih hrest
      refine ⟨.comma :: us ++ us', ?_, ?_⟩
      · intro cs₀ us₀ h₀
        have hpart := hlexes' _ _ ((h₀.mark .comma).append_lexes hlexes)
        rw [List.flatMap_cons]
        simp only [List.append_assoc, List.cons_append, List.nil_append] at hpart ⊢
        exact hpart
      · intro stack q before
        rw [List.reverse_cons, List.append_assoc]
        exact (hruns stack q before).append (hruns' stack p (q :: before))

/-- Parts between an opening and a closing mark are a document of a tree if the marks and the parts
lead the builder to it. -/
theorem denotes_of_parts (b : List Frame → List β → Builder) {opener closer : Char}
    {l l' : Lexeme} {v : Json} (hl : Punctuates opener l) (hl' : Punctuates closer l')
    (hopen : ∀ stack e, Expecting.TakesValue e → Builder.Runs [l] ⟨stack, e⟩ (b stack []))
    (hclose : ∀ stack, Builder.Runs [l'] (b stack parts.reverse) (Builder.complete v stack))
    (hparts : ∀ p ∈ parts, ∃ us, Lexes (chars p) us ∧ ∀ stack,
      Builder.Runs us (b stack []) (b stack [p])
        ∧ ∀ q before,
          Builder.Runs (.comma :: us) (b stack (q :: before)) (b stack (p :: q :: before))) :
  Denotes (opener :: separated (parts.map chars) ++ [closer]) v
  := by
  cases parts with
  | nil =>
      apply denotes_empty hl hl' isSpaces_nil
      intro stack e he
      exact (hopen stack e he).append (hclose stack)
  | cons p parts =>
      rw [List.forall_mem_cons] at hparts
      obtain ⟨⟨us, hlexes, hruns⟩, hrest⟩ := hparts
      have hnext : ∀ q ∈ parts, ∃ us, Lexes (chars q) us ∧ ∀ stack q' before,
          Builder.Runs (.comma :: us) (b stack (q' :: before)) (b stack (q :: q' :: before)) := by
        intro q hq
        obtain ⟨us, hlexes, hruns⟩ := hrest q hq
        exact ⟨us, hlexes, fun stack => (hruns stack).2⟩
      obtain ⟨us', hlexes', hruns'⟩ := exists_units_of_parts hnext
      refine ⟨[l] ++ us ++ us' ++ [l'], ?_, ?_⟩
      · rw [List.map_cons, separated_cons, List.flatMap_map]
        have hall := (hlexes' _ _ ((closes_mark hl).append_lexes hlexes)).mark hl'
        rw [List.append_assoc [opener]] at hall
        exact hall.lexes
      · intro stack e he
        rw [List.reverse_cons] at hclose
        exact (((hopen stack e he).append (hruns stack).1).append (hruns' stack p [])).append
          (hclose stack)

end Parts

/-- The builder inside an array with the given items so far, last first. -/
def Builder.inArray (stack : List Frame) : List Json → Builder
  | [] => ⟨.array [] :: stack, .itemOrEnd⟩
  | v :: before => ⟨.array (v :: before) :: stack, .commaOrArrayEnd⟩

/-- The builder inside an object with the given members so far, last first. -/
def Builder.inObject (stack : List Frame) : List (Text × Json) → Builder
  | [] => ⟨.object [] :: stack, .keyOrEnd⟩
  | m :: before => ⟨.object (m :: before) :: stack, .commaOrObjectEnd⟩

theorem runs_openArray {e : Expecting} (stack : List Frame) (he : e.TakesValue) :
  Builder.Runs [.openArray] ⟨stack, e⟩ (.inArray stack [])
  := runs_of_startValue he nofun fun _ _ _ => rfl

theorem runs_openObject {e : Expecting} (stack : List Frame) (he : e.TakesValue) :
  Builder.Runs [.openObject] ⟨stack, e⟩ (.inObject stack [])
  := runs_of_startValue he nofun fun _ _ _ => rfl

theorem runs_closeArray (stack : List Frame) (items : List Json) :
  Builder.Runs [.closeArray] (.inArray stack items.reverse) (Builder.complete (.array items) stack)
  := by
  apply Builder.runs_single
  rintro ⟨start, stop, _, lone⟩ rfl
  have hclose : ∀ before, (Builder.inArray stack before).step ⟨start, stop, .closeArray, lone⟩
      = .ok (Builder.complete (.array before.reverse) stack) := by
    intro before
    cases before <;> rfl
  rw [hclose, List.reverse_reverse]

theorem runs_closeObject (stack : List Frame) (members : List (Text × Json)) :
  Builder.Runs [.closeObject] (.inObject stack members.reverse)
    (Builder.complete (.object members) stack)
  := by
  apply Builder.runs_single
  rintro ⟨start, stop, _, lone⟩ rfl
  have hclose : ∀ before, (Builder.inObject stack before).step ⟨start, stop, .closeObject, lone⟩
      = .ok (Builder.complete (.object before.reverse) stack) := by
    intro before
    cases before <;> rfl
  rw [hclose, List.reverse_reverse]

/-- The items of an array may be any documents of them. -/
theorem denotes_array {items : List (List Char × Json)} (h : ∀ i ∈ items, Denotes i.1 i.2) :
  Denotes ('[' :: separated (items.map Prod.fst) ++ [']']) (.array (items.map Prod.snd))
  := by
  apply denotes_of_parts (fun stack before => .inArray stack (before.map Prod.snd))
    .openArray .closeArray
  · intro stack e he
    exact runs_openArray stack he
  · intro stack
    rw [List.map_reverse]
    apply runs_closeArray
  · intro i hi
    obtain ⟨us, hlexes, hbuilds⟩ := h i hi
    refine ⟨us, hlexes, fun stack => ⟨hbuilds _ _ .itemOrEnd, ?_⟩⟩
    intro q before
    have hcomma : Builder.Runs [.comma] (.inArray stack ((q :: before).map Prod.snd))
        ⟨.array ((q :: before).map Prod.snd) :: stack, .item⟩ := by
      apply Builder.runs_single
      rintro ⟨start, stop, _, lone⟩ rfl
      rfl
    exact hcomma.append (hbuilds _ _ .item)

theorem closes_key {key : Text} (h : IsKey cs key) :
  Closes cs [.text key]
  := by
  obtain ⟨hbefore, hquoted, hafter⟩ := h
  exact ((closes_spaces hbefore).append (closes_quoted hquoted)).append (closes_spaces hafter)

/-- A key makes the builder wait for a colon, and the colon makes it wait for a value. -/
theorem runs_key (stack : List Frame) (before : List (Text × Json)) (key : Text) {e : Expecting}
    (he : e = .keyOrEnd ∨ e = .key) :
  Builder.Runs [.text key, .colon] ⟨.object before :: stack, e⟩
    ⟨.member before key :: stack, .value⟩
  := by
  have hkey : Builder.Runs [.text key] ⟨.object before :: stack, e⟩
      ⟨.member before key :: stack, .colon⟩ := by
    apply Builder.runs_single
    rintro ⟨start, stop, _, lone⟩ rfl
    rcases he with rfl | rfl <;> rfl
  apply hkey.append
  apply Builder.runs_single
  rintro ⟨start, stop, _, lone⟩ rfl
  rfl

/-- The values of the members of an object may be any documents of them. -/
theorem denotes_object {members : List ((List Char × Text) × (List Char × Json))}
    (hkey : ∀ m ∈ members, IsKey m.1.1 m.1.2) (h : ∀ m ∈ members, Denotes m.2.1 m.2.2) :
  Denotes ('\x7b' :: separated (members.map fun m => m.1.1 ++ ':' :: m.2.1) ++ ['\x7d'])
    (.object (members.map fun m => (m.1.2, m.2.2)))
  := by
  apply denotes_of_parts
    (fun stack before => .inObject stack (before.map fun m => (m.1.2, m.2.2)))
    .openObject .closeObject
  · intro stack e he
    exact runs_openObject stack he
  · intro stack
    rw [List.map_reverse]
    apply runs_closeObject
  · intro m hm
    obtain ⟨us, hlexes, hbuilds⟩ := h m hm
    refine ⟨[.text m.1.2, .colon] ++ us, ?_, fun stack => ⟨?_, ?_⟩⟩
    · have hmember := ((closes_key (hkey m hm)).lexes.mark .colon).append_lexes hlexes
      rw [List.append_assoc] at hmember
      exact hmember
    · exact (runs_key stack [] _ (.inl rfl)).append (hbuilds _ _ .value)
    · intro q before
      have hcomma : Builder.Runs [.comma]
          (.inObject stack ((q :: before).map fun m => (m.1.2, m.2.2)))
          ⟨.object ((q :: before).map fun m => (m.1.2, m.2.2)) :: stack, .key⟩ := by
        apply Builder.runs_single
        rintro ⟨start, stop, _, lone⟩ rfl
        rfl
      exact hcomma.append ((runs_key stack _ _ (.inr rfl)).append (hbuilds _ _ .value))

/-- A document denotes its tree. -/
theorem Written.denotes (h : Written cs v) :
  Denotes cs v
  := by
  induction h with
  | spaced hbefore h hafter ih => exact ih.spaced hbefore hafter
  | null => exact ⟨_, closes_null.lexes, builds_single nofun fun _ _ _ _ => rfl⟩
  | true => exact ⟨_, closes_true.lexes, builds_single nofun fun _ _ _ _ => rfl⟩
  | false => exact ⟨_, closes_false.lexes, builds_single nofun fun _ _ _ _ => rfl⟩
  | number h => exact denotes_number h
  | text h => exact ⟨_, (closes_quoted h).lexes, builds_single nofun fun _ _ _ _ => rfl⟩
  | emptyArray h =>
      apply denotes_empty .openArray .closeArray h
      intro stack e he
      exact (runs_openArray stack he).append (runs_closeArray stack [])
  | array h ih => exact denotes_array ih
  | emptyObject h =>
      apply denotes_empty .openObject .closeObject h
      intro stack e he
      exact (runs_openObject stack he).append (runs_closeObject stack [])
  | object hkey h ih => exact denotes_object hkey ih

/-! ### Reading -/

/-- A document is read as what it denotes. -/
theorem ofGlyphs_of_denotes (h : Denotes cs v) :
  ofGlyphs (cs.map some) = .ok v
  := by
  obtain ⟨us, hlexes, hbuilds⟩ := h
  have hunits : (lexemes (cs.map some)).map Placed.lexeme = us := by
    have hrests := hlexes .initial [] ⟨rfl, rfl⟩
    rw [List.nil_append] at hrests
    change ((Scanner.initial.readAll cs).finish).map Placed.lexeme = us
    cases hrests with
    | blank hs =>
        rw [Scanner.finish, hs.doing_eq]
        exact hs.units_eq
    | number hdoing hend hunits =>
        rw [Scanner.finish, hdoing]
        dsimp only
        rw [if_pos hend, ← hunits]
        simp only [Scanner.emit, Scanner.units, List.reverse_cons, List.map_append]
        rfl
  have hrun : (lexemes (cs.map some)).foldlM Builder.step .initial = .ok (Builder.complete v []) :=
    hbuilds [] .value .value _ hunits
  rw [ofGlyphs, ofLexemes, hrun]
  rfl

/-- A document is read as its tree. -/
theorem read_of_written (h : Written cs v) :
  read (Utf8.encode cs) = .ok v
  := by
  rw [read, Utf8.glyphs_encode]
  exact ofGlyphs_of_denotes h.denotes

/-- A tree is read back from its text. -/
theorem read_print (h : Plain v) :
  read (Utf8.bytes v.print) = .ok v
  := by
  rw [print, Utf8.bytes, String.toList_ofList]
  exact read_of_written h.written

end LogCourier.Json
