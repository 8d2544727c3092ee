import ApiSurface.Proofs.Run.Arguments

/-! The command line accepts what its grammar says.  That a value is checked only when the next flag
or name begins changes what is refused first, but not what is accepted. -/

namespace ApiSurface

namespace CommandLine

variable {reading settled next : Reading} {item : Item} {items front behind : List Item}
  {flag : Flag} {value argument : Text} {arguments rest : List Text} {line : CommandLine}

namespace Reading

/-- What the reading has taken and the items together make up the line. -/
structure Completes (reading : Reading) (items : List Item) (line : CommandLine) : Prop where
  path : reading.path.toList ++ items.filterMap Item.path? = [line.path]
  output : reading.output.toList ++ items.filterMap Item.output? = line.output.toList
  compare : ∃ value : Option Bool,
    reading.compare.toList ++ items.filterMap Item.compare? = value.toList ∧
      line.compare = value.getD false

def add (reading : Reading) : Item → Reading
  | .path value => { reading with path := some value }
  | .output value => { reading with output := some value }
  | .compare value => { reading with compare := some value }

def Lacks (reading : Reading) : Item → Prop
  | .path _ => reading.path = none
  | .output _ => reading.output = none
  | .compare _ => reading.compare = none

theorem toList_append_cons_eq_iff {α : Type} {held result : Option α} {value : α}
    {others : List α} :
    held.toList ++ value :: others = result.toList ↔
      held = none ∧ (some value).toList ++ others = result.toList := by
  cases held <;> cases result <;> simp

theorem completes_cons_iff :
    reading.Completes (item :: items) line ↔
      reading.Lacks item ∧ (reading.add item).Completes items line := by
  cases item with
  | path value =>
      constructor
      · intro completes
        have path : _ = (some line.path).toList := completes.path
        obtain ⟨free, path⟩ := toList_append_cons_eq_iff.mp path
        exact ⟨free, path, completes.output, completes.compare⟩
      · rintro ⟨free, completes⟩
        have path : _ = (some line.path).toList := completes.path
        exact ⟨toList_append_cons_eq_iff.mpr ⟨free, path⟩, completes.output, completes.compare⟩
  | output value =>
      constructor
      · intro completes
        obtain ⟨free, output⟩ := toList_append_cons_eq_iff.mp completes.output
        exact ⟨free, completes.path, output, completes.compare⟩
      · rintro ⟨free, completes⟩
        exact ⟨completes.path, toList_append_cons_eq_iff.mpr ⟨free, completes.output⟩,
          completes.compare⟩
  | compare value =>
      constructor
      · intro completes
        obtain ⟨result, compare, same⟩ := completes.compare
        obtain ⟨free, compare⟩ := toList_append_cons_eq_iff.mp compare
        exact ⟨free, completes.path, completes.output, result, compare, same⟩
      · rintro ⟨free, completes⟩
        obtain ⟨result, compare, same⟩ := completes.compare
        exact ⟨completes.path, completes.output, result,
          toList_append_cons_eq_iff.mpr ⟨free, compare⟩, same⟩

theorem completes_empty_iff : ({} : Reading).Completes items line ↔ Describe items line :=
  ⟨fun ⟨path, output, compare⟩ => ⟨path, output, compare⟩,
    fun ⟨path, output, compare⟩ => ⟨path, output, compare⟩⟩

theorem take_eq_ok_iff :
    reading.take value flag = .ok next ↔
      ∃ item, flag.Means value item ∧ reading.Lacks item ∧ next = reading.add item := by
  cases flag with
  | output =>
      rw [take]
      constructor
      · intro took
        split_ifs at took with held empty
        exact ⟨.output value, .output (by simpa using empty), Option.not_isSome_iff_eq_none.mp held,
          (Except.ok.inj took).symm⟩
      · rintro ⟨item, ⟨filled⟩, free, rfl⟩
        rw [Lacks] at free
        simp [free, filled, add]
  | compare =>
      rw [take]
      constructor
      · intro took
        split_ifs at took with held yes no
        · exact ⟨.compare true, yes ▸ .yes, Option.not_isSome_iff_eq_none.mp held,
            (Except.ok.inj took).symm⟩
        · exact ⟨.compare false, no ▸ .no, Option.not_isSome_iff_eq_none.mp held,
            (Except.ok.inj took).symm⟩
      · rintro ⟨item, means, free, rfl⟩
        cases means <;> rw [Lacks] at free <;> simp [free, add]

/-- No flag waits for its value, so that what is pending could be checked at once. -/
def IsWhole (reading : Reading) : Prop :=
  ∀ flag, reading.pending ≠ some (.flag flag none)

theorem settle_of_settled (nothing : settled.pending = none) : settled.settle = .ok settled := by
  obtain ⟨path, output, compare, pending⟩ := settled
  obtain rfl : pending = none := nothing
  rfl

theorem pending_add (reading : Reading) (item : Item) :
    (reading.add item).pending = reading.pending := by
  cases item <;> rfl

theorem pending_of_settle (done : reading.settle = .ok settled) : settled.pending = none := by
  rw [settle] at done
  split at done
  · exact Except.ok.inj done ▸ rfl
  · split_ifs at done
    exact Except.ok.inj done ▸ rfl
  · cases done
  · obtain ⟨item, -, -, rfl⟩ := take_eq_ok_iff.mp done
    rw [pending_add]

theorem hasPath_of_settle (done : reading.settle = .ok settled) :
    settled.hasPath = reading.hasPath := by
  rw [settle] at done
  split at done
  · next pending =>
    simp [hasPath, pending, ← Except.ok.inj done]
  · next value pending =>
    split_ifs at done
    simp [hasPath, pending, ← Except.ok.inj done]
  · cases done
  · next flag value pending =>
    obtain ⟨item, means, -, rfl⟩ := take_eq_ok_iff.mp done
    cases means <;> simp [hasPath, pending, add]

theorem settle_path_eq_ok_iff (nothing : settled.pending = none) :
    Reading.settle { settled with pending := some (.path value) } = .ok next ↔
      value ≠ [] ∧ next = settled.add (.path value) := by
  obtain ⟨path, output, compare, pending⟩ := settled
  obtain rfl : pending = none := nothing
  cases value with
  | nil => simp [settle]
  | cons first more => simp [settle, add, eq_comm]

theorem settle_flag_eq_ok_iff (nothing : settled.pending = none) :
    Reading.settle { settled with pending := some (.flag flag (some value)) } = .ok next ↔
      ∃ item, flag.Means value item ∧ settled.Lacks item ∧ next = settled.add item := by
  obtain ⟨path, output, compare, pending⟩ := settled
  obtain rfl : pending = none := nothing
  exact take_eq_ok_iff

theorem begin_eq_ok_iff {pending : Pending} :
    reading.begin pending = .ok next ↔
      ∃ settled, reading.settle = .ok settled ∧
        next = { settled with pending := some pending } := by
  rw [begin]
  cases reading.settle <;> simp [Except.map, eq_comm]

theorem place_eq_ok_iff :
    reading.place argument = .ok next ↔
      ∃ settled, reading.settle = .ok settled ∧ settled.path = none ∧
        next = { settled with pending := some (.path argument) } := by
  rw [place]
  constructor
  · intro placed
    split_ifs at placed with held
    obtain ⟨settled, done, rfl⟩ := begin_eq_ok_iff.mp placed
    refine ⟨settled, done, ?_, rfl⟩
    rw [← hasPath_of_settle done, hasPath, pending_of_settle done] at held
    exact Option.not_isSome_iff_eq_none.mp held
  · rintro ⟨settled, done, free, rfl⟩
    have held : reading.hasPath = false := by
      rw [← hasPath_of_settle done, hasPath, pending_of_settle done, free]
      rfl
    rw [held]
    exact begin_eq_ok_iff.mpr ⟨settled, done, rfl⟩

/-- What one argument makes of a reading that has nothing pending. -/
inductive Step (settled : Reading) : Text → Reading → Prop
  | path {value : Path} (plain : IsPlain value) (free : settled.path = none) :
      Step settled value { settled with pending := some (.path value) }
  | flag (flag : Flag) :
      Step settled flag.name { settled with pending := some (.flag flag none) }
  | attached {flag : Flag} {attached value : Text} {next : Reading}
      (carries : Carries attached value) (took : settled.take value flag = .ok next) :
      Step settled (flag.name ++ attached) next

theorem bind_take_eq_ok_iff :
    (reading.settle.bind fun settled => settled.take value flag) = .ok next ↔
      ∃ settled, reading.settle = .ok settled ∧ settled.take value flag = .ok next := by
  cases reading.settle <;> simp [Except.bind]

theorem flag_nil_eq_ok_iff :
    reading.flag flag [] = .ok next ↔
      ∃ settled, reading.settle = .ok settled ∧
        next = { settled with pending := some (.flag flag none) } :=
  begin_eq_ok_iff

theorem flag_of_carries {attached : Text} (carries : Carries attached value)
    (filled : attached ≠ []) :
    reading.flag flag attached = reading.settle.bind fun settled => settled.take value flag := by
  cases carries with
  | equated => rfl
  | bare bare =>
      cases value with
      | nil => exact absurd rfl filled
      | cons first more =>
          rw [Reading.flag]
          · simp
          · rintro value ⟨⟩
            exact bare rfl

theorem exists_carries (attached : Text) : ∃ value, Carries attached value := by
  by_cases bare : attached.head? = some '='
  · obtain ⟨value, rfl⟩ := List.head?_eq_some_iff.mp bare
    exact ⟨value, .equated value⟩
  · exact ⟨attached, .bare bare⟩

theorem take_nil_ne_ok : settled.take [] flag ≠ .ok next := by
  intro took
  obtain ⟨item, means, -, -⟩ := take_eq_ok_iff.mp took
  cases means with
  | output filled => exact filled rfl

theorem step_of_flag {attached : Text} (taken : reading.flag flag attached = .ok next) :
    ∃ settled, reading.settle = .ok settled ∧ settled.Step (flag.name ++ attached) next := by
  by_cases filled : attached = []
  · obtain ⟨settled, done, rfl⟩ := flag_nil_eq_ok_iff.mp (filled ▸ taken)
    rw [filled, List.append_nil]
    exact ⟨settled, done, .flag flag⟩
  · obtain ⟨value, carries⟩ := exists_carries attached
    rw [flag_of_carries carries filled] at taken
    obtain ⟨settled, done, took⟩ := bind_take_eq_ok_iff.mp taken
    exact ⟨settled, done, .attached carries took⟩

theorem argument_name (flag : Flag) (attached : Text) :
    reading.argument (flag.name ++ attached) = reading.flag flag attached := by
  cases flag <;> rfl

theorem argument_of_isPlain (plain : IsPlain argument) :
    reading.argument argument = reading.plain argument := by
  cases argument with
  | nil => rfl
  | cons first more =>
      by_cases dash : first = '-'
      · obtain ⟨rfl, rfl⟩ : first = '-' ∧ more = [] := by
          simpa using plain (by rw [dash]; rfl)
        rfl
      · rw [Reading.argument] <;> simp [dash]

theorem plain_of_isWhole (whole : reading.IsWhole) :
    reading.plain argument = reading.place argument := by
  rw [Reading.plain]
  split
  · next flag pending => exact absurd pending (whole flag)
  · rfl

theorem isPlain_or_step (taken : reading.argument argument = .ok next) :
    IsPlain argument ∨
      ∃ settled, reading.settle = .ok settled ∧ settled.Step argument next := by
  unfold Reading.argument at taken
  split at taken
  · cases taken
  · cases done : reading.settle <;> simp [done, Except.bind] at taken
  · exact .inr (step_of_flag taken)
  · exact .inr (step_of_flag taken)
  · cases taken
  · next others =>
    refine .inl fun dash => ?_
    obtain ⟨more, rfl⟩ := List.head?_eq_some_iff.mp dash
    cases more with
    | nil => rfl
    | cons second more => exact absurd rfl (others second more)

theorem argument_eq_ok_iff (whole : reading.IsWhole) :
    reading.argument argument = .ok next ↔
      ∃ settled, reading.settle = .ok settled ∧ settled.Step argument next := by
  constructor
  · intro taken
    refine (isPlain_or_step taken).elim (fun plain => ?_) id
    rw [argument_of_isPlain plain, plain_of_isWhole whole] at taken
    obtain ⟨settled, done, free, rfl⟩ := place_eq_ok_iff.mp taken
    exact ⟨settled, done, .path plain free⟩
  · rintro ⟨settled, done, step⟩
    cases step with
    | path plain free =>
        rw [argument_of_isPlain plain, plain_of_isWhole whole]
        exact place_eq_ok_iff.mpr ⟨settled, done, free, rfl⟩
    | flag flag =>
        rw [← List.append_nil flag.name, argument_name]
        exact flag_nil_eq_ok_iff.mpr ⟨settled, done, rfl⟩
    | @attached flag attached value next carries took =>
        have filled : attached ≠ [] := by
          rintro rfl
          cases carries
          exact take_nil_ne_ok took
        rw [argument_name, flag_of_carries carries filled]
        exact bind_take_eq_ok_iff.mpr ⟨settled, done, took⟩

/-- The arguments make up the line when they are read from here on. -/
def Yields (reading : Reading) (arguments : List Text) (line : CommandLine) : Prop :=
  ∃ after settled, read reading arguments = .ok after ∧ after.settle = .ok settled ∧
    settled.Completes [] line

theorem completes_nil_iff :
    settled.Completes [] line ↔
      settled.path = some line.path ∧ settled.output = line.output ∧
        settled.compare.getD false = line.compare := by
  constructor
  · rintro ⟨path, output, value, compare, same⟩
    have held : settled.compare = value := by simpa using congrArg List.head? compare
    exact ⟨by simpa using congrArg List.head? path, by simpa using congrArg List.head? output,
      held ▸ same.symm⟩
  · rintro ⟨path, output, compare⟩
    exact ⟨by simp [path], by simp [output], settled.compare, by simp, compare.symm⟩

theorem yields_nil_iff :
    reading.Yields [] line ↔
      ∃ settled, reading.settle = .ok settled ∧ settled.Completes [] line := by
  simp [Yields, read]

theorem yields_cons_iff (other : argument ≠ "--".toList) :
    reading.Yields (argument :: rest) line ↔
      ∃ next, reading.argument argument = .ok next ∧ next.Yields rest line := by
  rw [Yields, read, if_neg other]
  cases taken : reading.argument argument with
  | error problem => simp
  | ok next => simp [Yields]

theorem yields_paths_iff {values : List Text} :
    (∃ after settled, readPaths reading values = .ok after ∧ after.settle = .ok settled ∧
        settled.Completes [] line) ↔
      ∃ settled, reading.settle = .ok settled ∧ (∀ value ∈ values, value ≠ []) ∧
        settled.Completes (values.map .path) line := by
  induction values generalizing reading with
  | nil => simp [readPaths]
  | cons value values hypothesis =>
      have placed : (∃ after settled, readPaths reading (value :: values) = .ok after ∧
            after.settle = .ok settled ∧ settled.Completes [] line) ↔
          ∃ next, reading.place value = .ok next ∧
            ∃ settled, next.settle = .ok settled ∧ (∀ value ∈ values, value ≠ []) ∧
              settled.Completes (values.map .path) line := by
        simp only [← hypothesis]
        rw [readPaths]
        cases reading.place value <;> simp
      rw [placed]
      constructor
      · rintro ⟨next, placed, filled, done, others, completes⟩
        obtain ⟨settled, before, free, rfl⟩ := place_eq_ok_iff.mp placed
        obtain ⟨here, rfl⟩ := (settle_path_eq_ok_iff (pending_of_settle before)).mp done
        exact ⟨settled, before, List.forall_mem_cons.mpr ⟨here, others⟩,
          completes_cons_iff.mpr ⟨free, completes⟩⟩
      · rintro ⟨settled, before, filled, completes⟩
        obtain ⟨here, others⟩ := List.forall_mem_cons.mp filled
        obtain ⟨free, completes⟩ := completes_cons_iff.mp completes
        exact ⟨_, place_eq_ok_iff.mpr ⟨settled, before, free, rfl⟩, _,
          (settle_path_eq_ok_iff (pending_of_settle before)).mpr ⟨here, rfl⟩, others, completes⟩

theorem yields_dashes_iff {values : List Text} :
    reading.Yields ("--".toList :: values) line ↔
      ∃ settled, reading.settle = .ok settled ∧ (∀ value ∈ values, value ≠ []) ∧
        settled.Completes (values.map .path) line := by
  rw [Yields, read, if_pos rfl, yields_paths_iff]

theorem waiting_argument_eq_ok_iff :
    Reading.argument { settled with pending := some (.flag flag none) } argument = .ok next ↔
      IsPlain argument ∧ next = { settled with pending := some (.flag flag (some argument)) } := by
  constructor
  · intro taken
    obtain plain | ⟨before, done, -⟩ := isPlain_or_step taken
    · rw [argument_of_isPlain plain] at taken
      exact ⟨plain, (Except.ok.inj taken).symm⟩
    · cases done
  · rintro ⟨plain, rfl⟩
    rw [argument_of_isPlain plain]
    rfl

theorem waiting_yields_iff :
    Reading.Yields { settled with pending := some (.flag flag none) } arguments line ↔
      ∃ value rest, arguments = value :: rest ∧ IsPlain value ∧
        Reading.Yields { settled with pending := some (.flag flag (some value)) } rest line := by
  cases arguments with
  | nil => simp [yields_nil_iff, settle]
  | cons value rest =>
      by_cases dashes : value = "--".toList
      · rw [dashes, yields_dashes_iff]
        constructor
        · rintro ⟨before, done, -⟩
          cases done
        · rintro ⟨_, _, ⟨⟩, plain, -⟩
          exact absurd plain not_isPlain_dashes
      · rw [yields_cons_iff dashes]
        simp [waiting_argument_eq_ok_iff, and_assoc]

theorem yields_of_isCut (whole : reading.IsWhole) (cut : IsCut arguments front behind)
    (done : reading.settle = .ok settled) (completes : settled.Completes (front ++ behind) line) :
    reading.Yields arguments line := by
  -- Between two items no flag waits, so what is pending may be settled before the next argument.
  induction cut generalizing reading settled with
  | nil => exact yields_nil_iff.mpr ⟨settled, done, completes⟩
  | dashes filled => exact yields_dashes_iff.mpr ⟨settled, done, filled, completes⟩
  | @cons item arguments later front behind spells rest hypothesis =>
      obtain ⟨free, completes⟩ := completes_cons_iff.mp completes
      have nothing : settled.pending = none := pending_of_settle done
      cases spells with
      | @path value filled plain =>
          have other : value ≠ "--".toList := fun same => not_isPlain_dashes (same ▸ plain)
          refine (yields_cons_iff other).mpr
            ⟨_, (argument_eq_ok_iff whole).mpr ⟨settled, done, .path plain free⟩, ?_⟩
          refine hypothesis ?_ ((settle_path_eq_ok_iff nothing).mpr ⟨filled, rfl⟩) completes
          rintro flag ⟨⟩
      | @apart flag value item means plain =>
          have other : flag.name ≠ "--".toList := by cases flag <;> decide
          refine (yields_cons_iff other).mpr
            ⟨_, (argument_eq_ok_iff whole).mpr ⟨settled, done, .flag flag⟩, ?_⟩
          refine waiting_yields_iff.mpr ⟨value, later, rfl, plain, ?_⟩
          refine hypothesis ?_
            ((settle_flag_eq_ok_iff nothing).mpr ⟨item, means, free, rfl⟩) completes
          rintro flag ⟨⟩
      | @attached flag attached value item carries means =>
          have other : flag.name ++ attached ≠ "--".toList := by
            cases flag <;> simp [Flag.name]
          have took : settled.take value flag = .ok (settled.add item) :=
            take_eq_ok_iff.mpr ⟨item, means, free, rfl⟩
          have alone : (settled.add item).pending = none := by rw [pending_add, nothing]
          refine (yields_cons_iff other).mpr
            ⟨_, (argument_eq_ok_iff whole).mpr ⟨settled, done, .attached carries took⟩, ?_⟩
          refine hypothesis ?_ (settle_of_settled alone) completes
          simp [IsWhole, alone]

theorem isCut_of_yields (whole : reading.IsWhole) (yields : reading.Yields arguments line) :
    ∃ settled front behind, reading.settle = .ok settled ∧ IsCut arguments front behind ∧
      settled.Completes (front ++ behind) line := by
  -- An item may take two arguments, hence the induction on how many of them are left.
  induction length : arguments.length using Nat.strongRecOn
    generalizing reading arguments with
  | ind length hypothesis =>
  subst length
  cases arguments with
  | nil =>
      obtain ⟨settled, done, completes⟩ := yields_nil_iff.mp yields
      exact ⟨settled, [], [], done, .nil, completes⟩
  | cons argument rest =>
      by_cases dashes : argument = "--".toList
      · subst dashes
        obtain ⟨settled, done, filled, completes⟩ := yields_dashes_iff.mp yields
        exact ⟨settled, [], _, done, .dashes filled, completes⟩
      obtain ⟨next, taken, yields⟩ := (yields_cons_iff dashes).mp yields
      obtain ⟨settled, done, step⟩ := (argument_eq_ok_iff whole).mp taken
      have nothing : settled.pending = none := pending_of_settle done
      cases step with
      | path plain free =>
          obtain ⟨after, front, behind, settles, cut, completes⟩ :=
            hypothesis rest.length (by simp) (by rintro flag ⟨⟩) yields rfl
          obtain ⟨filled, rfl⟩ := (settle_path_eq_ok_iff nothing).mp settles
          exact ⟨settled, _, behind, done, .cons (.path filled plain) cut,
            completes_cons_iff.mpr ⟨free, completes⟩⟩
      | flag flag =>
          obtain ⟨value, later, rfl, plain, yields⟩ := waiting_yields_iff.mp yields
          obtain ⟨after, front, behind, settles, cut, completes⟩ :=
            hypothesis later.length (by simp only [List.length_cons]; omega)
              (by rintro flag ⟨⟩) yields rfl
          obtain ⟨item, means, free, rfl⟩ := (settle_flag_eq_ok_iff nothing).mp settles
          exact ⟨settled, _, behind, done, .cons (.apart means plain) cut,
            completes_cons_iff.mpr ⟨free, completes⟩⟩
      | attached carries took =>
          obtain ⟨item, means, free, rfl⟩ := take_eq_ok_iff.mp took
          have alone : (settled.add item).pending = none := by rw [pending_add, nothing]
          obtain ⟨after, front, behind, settles, cut, completes⟩ :=
            hypothesis rest.length (by simp) (by simp [IsWhole, alone]) yields rfl
          obtain rfl : settled.add item = after :=
            Except.ok.inj ((settle_of_settled alone).symm.trans settles)
          exact ⟨settled, _, behind, done, .cons (.attached carries means) cut,
            completes_cons_iff.mpr ⟨free, completes⟩⟩

theorem parse_eq_ok_iff_yields :
    parse arguments = .ok line ↔ ({} : Reading).Yields arguments line := by
  rw [parse, Yields]
  cases read {} arguments with
  | error problem => simp
  | ok after =>
      cases done : after.settle with
      | error problem => simp [done]
      | ok settled =>
          obtain ⟨path, output, compare⟩ := line
          cases held : settled.path <;> simp [completes_nil_iff, done, held]

end Reading

theorem parse_eq_ok_iff :
    parse arguments = .ok line ↔
      ∃ front behind, IsCut arguments front behind ∧ Describe (front ++ behind) line := by
  rw [Reading.parse_eq_ok_iff_yields]
  constructor
  · intro yields
    obtain ⟨settled, front, behind, done, cut, completes⟩ :=
      Reading.isCut_of_yields (by rintro flag ⟨⟩) yields
    obtain rfl := Except.ok.inj done
    exact ⟨front, behind, cut, Reading.completes_empty_iff.mp completes⟩
  · rintro ⟨front, behind, cut, describe⟩
    exact Reading.yields_of_isCut (by rintro flag ⟨⟩) cut rfl
      (Reading.completes_empty_iff.mpr describe)

theorem parse_eq_ok_iff_of_isCut (cut : IsCut arguments front behind) :
    parse arguments = .ok line ↔ Describe (front ++ behind) line := by
  rw [parse_eq_ok_iff]
  constructor
  · rintro ⟨moved, others, cuts, describe⟩
    obtain ⟨rfl, rfl⟩ := cut.unique cuts
    exact describe
  · exact fun describe => ⟨front, behind, cut, describe⟩

/-- The command line accepts the arguments that are items of which one is the path, with one of each
other kind at most.  Neither their order nor their spelling changes what is read. -/
theorem parse_by_items (arguments : List Text) :
    (∀ line, parse arguments = .ok line ↔
      ∃ front behind, IsCut arguments front behind ∧ Describe (front ++ behind) line) ∧
    ∀ others front moved behind, IsCut arguments front behind → IsCut others moved behind →
      front.Perm moved → (parse arguments).toOption = (parse others).toOption := by
  refine ⟨fun line => parse_eq_ok_iff, fun others front moved behind cut moves same => ?_⟩
  have items : (front ++ behind).Perm (moved ++ behind) := same.append_right behind
  refine Option.ext fun line => ?_
  calc (parse arguments).toOption = some line ↔ Describe (front ++ behind) line := by
        rw [← parse_eq_ok_iff_of_isCut cut]
        cases parse arguments <;> simp [Except.toOption]
    _ ↔ Describe (moved ++ behind) line := ⟨.of_perm items.symm, .of_perm items⟩
    _ ↔ (parse others).toOption = some line := by
        rw [← parse_eq_ok_iff_of_isCut moves]
        cases parse others <;> simp [Except.toOption]

theorem parse_by_items_sample :
    let arguments := ["-c".toList, "true".toList, "lib.jar".toList, "-o=out".toList]
    let others := ["-oout".toList, "lib.jar".toList, "-ctrue".toList]
    parse arguments = .ok ⟨"lib.jar".toList, some "out".toList, true⟩ ∧
      (parse arguments).toOption = (parse others).toOption := by
  intro arguments others
  have compare : Item.Spells (.compare true) ["-c".toList, "true".toList] :=
    .apart .yes (by decide)
  have compact : Item.Spells (.compare true) ["-ctrue".toList] :=
    .attached (.bare (by decide)) .yes
  have path : Item.Spells (.path "lib.jar".toList) ["lib.jar".toList] :=
    .path (by decide) (by decide)
  have equated : Item.Spells (.output "out".toList) ["-o=out".toList] :=
    .attached (.equated _) (.output (by decide))
  have attached : Item.Spells (.output "out".toList) ["-oout".toList] :=
    .attached (.bare (by decide)) (.output (by decide))
  have cut : IsCut arguments [.compare true, .path "lib.jar".toList, .output "out".toList] [] :=
    .cons compare (.cons path (.cons equated .nil))
  have moved : IsCut others [.output "out".toList, .path "lib.jar".toList, .compare true] [] :=
    .cons attached (.cons path (.cons compact .nil))
  obtain ⟨accepts, agrees⟩ := parse_by_items arguments
  exact ⟨(accepts _).mpr ⟨_, _, cut, rfl, rfl, some true, rfl, rfl⟩,
    agrees others _ _ _ cut moved (by decide)⟩

end CommandLine

end ApiSurface
