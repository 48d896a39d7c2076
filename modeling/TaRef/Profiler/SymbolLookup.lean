import TaRef.Profiler.SymbolTable

/-!
# Names of symbols

A line with an undefined symbol is entered with what the local variables hold.  So every address is
looked up right exactly when what such lines enter is below `MAX_ADDR` and, where no later line has
its address, is the last line that defines it once more.
-/

namespace TaRef
namespace Profiler
namespace NmParse

/-- The name that a line defines at an address. -/
def NmLine.nameAt (addr : UInt64) : NmLine → Option Bytes
  | defined line => if line.address = addr then some line.name else none
  | undefined _ => none

/-- The name on the last line that defines an address. -/
def lastName (lines : List NmLine) (addr : UInt64) : Option Bytes :=
  lines.reverse.findSome? (NmLine.nameAt addr)

/-- `parse_nm` succeeds, and `get_func_name` ends for every address and returns the name on the last
line that defines it, or `NULL` where there is none. -/
def SymbolsFound (listing : Listing) (residue : Stream' Locals) (cells : Nat → ListCell)
    (nmPool : Nat → NmInfo) : Prop :=
  ∃ table,
    parseNm residue cells nmPool (some (fileOf listing.terminated listing.lines)) = .table table ∧
      ∀ addr, ∃ enough, ∀ fuel ≥ enough, ∃ funcName, getFuncName fuel table addr = some funcName ∧
        (funcName.map fun funcName => cString funcName.val) = lastName listing.lines addr

/-- Where a line is undefined, the variable `addr` holds a small address, and if no later line is
entered under it, `func_name` holds the name on the last line that defines it. -/
def Harmless (lines : List NmLine) (residue : Stream' Locals) : Prop :=
  ∀ index line, lines[index]? = some (.undefined line) →
    (residue.get index).addr < maxAddr ∧
      ((∀ later > index, ∀ other, lines[later]? = some other →
          (other.assign (residue.get later)).addr ≠ (residue.get index).addr) →
        lastName lines (residue.get index).addr =
          some (cString (residue.get index).funcName.val))

/-! ## The last of a list -/

/-- The last element of a list with a value. -/
theorem findSome?_reverse_eq_some_iff {α β : Type*} {f : α → Option β} {list : List α} {value : β} :
    list.reverse.findSome? f = some value ↔
      ∃ (index : Nat) (element : α), list[index]? = some element ∧ f element = some value ∧
        ∀ later > index, ∀ other, list[later]? = some other → f other = none := by
  rw [List.findSome?_eq_some_iff]
  constructor
  · rintro ⟨later, element, earlier, reverse_eq, has, none_later⟩
    have list_eq : list = earlier.reverse ++ [element] ++ later.reverse := by
      rw [← List.reverse_reverse list, reverse_eq]
      simp
    refine ⟨earlier.length, element, by simp [list_eq], has, fun place place_gt other entry => ?_⟩
    rw [list_eq, List.getElem?_append_right (by simpa using place_gt)] at entry
    exact none_later other (List.mem_reverse.mp (List.mem_of_getElem? entry))
  · rintro ⟨index, element, entry, has, none_after⟩
    refine ⟨(list.drop (index + 1)).reverse, element, (list.take index).reverse, ?_, has, ?_⟩
    · obtain ⟨inside, rfl⟩ := List.getElem?_eq_some_iff.mp entry
      calc list.reverse = (list.take index ++ list.drop index).reverse := by
            rw [List.take_append_drop]
        _ = (list.drop (index + 1)).reverse ++ list[index] :: (list.take index).reverse := by
            rw [List.drop_eq_getElem_cons inside, List.reverse_append, List.reverse_cons,
              List.append_assoc, List.singleton_append]
    · intro other member
      obtain ⟨distance, other_entry⟩ := List.mem_iff_getElem?.mp (List.mem_reverse.mp member)
      rw [List.getElem?_drop] at other_entry
      exact none_after (index + 1 + distance) (by omega) other other_entry

/-! ## What is entered -/

/-- The name of an entry, if it has the address. -/
def nameIn (addr : UInt64) (entry : Entry) : Option Bytes :=
  if entry.1 = addr then some (cString entry.2.funcName.val) else none

theorem latest_eq (entries : List Entry) (addr : UInt64) :
    (latest entries addr).map (fun info => cString info.funcName.val) =
      entries.findSome? (nameIn addr) := by
  induction entries with
  | nil => rfl
  | cons entry older ih =>
      rw [latest, List.find?_cons, List.findSome?_cons, nameIn]
      by_cases wanted : entry.1 = addr
      · rw [beq_iff_eq.mpr wanted, if_pos wanted]
        rfl
      · rw [beq_eq_false_iff_ne.mpr wanted, if_neg wanted]
        exact ih

section Names

variable {residue : Stream' Locals} {lines : List NmLine} {addr : UInt64} {name : Bytes}

theorem nameIn_eq_some_iff {entry : Entry} :
    nameIn addr entry = some name ↔ entry.1 = addr ∧ cString entry.2.funcName.val = name := by
  rw [nameIn]
  split_ifs with same <;> simp [same]

theorem nameIn_eq_none_iff {entry : Entry} : nameIn addr entry = none ↔ entry.1 ≠ addr := by
  rw [nameIn]
  split_ifs with same <;> simp [same]

/-- The name that is entered last under an address. -/
def lastEntered (residue : Stream' Locals) (lines : List NmLine) (addr : UInt64) : Option Bytes :=
  (entries residue lines).reverse.findSome? (nameIn addr)

/-- What a line defines it enters, whatever the variables hold. -/
theorem nameIn_of_nameAt {line : NmLine} (locals : Locals)
    (defines : line.nameAt addr = some name) :
    nameIn addr (line.assign locals).entry = some name := by
  cases line with
  | undefined line => exact nomatch defines
  | defined line =>
      rw [NmLine.nameAt] at defines
      split_ifs at defines with same
      rw [nameIn_eq_some_iff]
      exact ⟨same, (line.cString_info locals).trans (Option.some.inj defines)⟩

/-- An entry under an address that no line defines there is that of an undefined symbol. -/
theorem nameIn_undefined (line : UndefinedLine) (locals : Locals) :
    nameIn locals.addr ((NmLine.undefined line).assign locals).entry =
      some (cString locals.funcName.val) :=
  nameIn_eq_some_iff.mpr ⟨rfl, cString_strncpy locals.funcName⟩

/-- The last line that is entered under an address. -/
theorem lastEntered_eq_some_iff :
    lastEntered residue lines addr = some name ↔
      ∃ (index : Nat) (line : NmLine), lines[index]? = some line ∧
        nameIn addr (line.assign (residue.get index)).entry = some name ∧
          ∀ later > index, ∀ other, lines[later]? = some other →
            (other.assign (residue.get later)).addr ≠ addr := by
  rw [lastEntered, findSome?_reverse_eq_some_iff]
  simp only [getElem?_entries, Option.map_eq_some_iff]
  constructor
  · rintro ⟨index, _, ⟨line, entry, rfl⟩, has, none_after⟩
    exact ⟨index, line, entry, has, fun later later_gt other other_entry =>
      nameIn_eq_none_iff.mp (none_after later later_gt _ ⟨other, other_entry, rfl⟩)⟩
  · rintro ⟨index, line, entry, has, none_after⟩
    refine ⟨index, _, ⟨line, entry, rfl⟩, has, ?_⟩
    rintro later later_gt _ ⟨other, other_entry, rfl⟩
    exact nameIn_eq_none_iff.mpr (none_after later later_gt other other_entry)

/-- A name that a line defines at an address is the last one there if no later line defines it. -/
theorem lastName_of_nameAt {index : Nat} {line : NmLine} (entry : lines[index]? = some line)
    (defines : line.nameAt addr = some name)
    (none_after : ∀ later > index, ∀ other, lines[later]? = some (.defined other) →
      other.address ≠ addr) : lastName lines addr = some name := by
  rw [lastName, findSome?_reverse_eq_some_iff]
  refine ⟨index, line, entry, defines, fun later later_gt other other_entry => ?_⟩
  cases other with
  | undefined other => rfl
  | defined other => exact if_neg (none_after later later_gt other other_entry)

/-- An address that nothing is entered under has no name. -/
theorem lastName_of_unentered (unentered : lastEntered residue lines addr = none) :
    lastName lines addr = none := by
  rw [lastName, List.findSome?_eq_none_iff]
  intro line member
  rw [Option.eq_none_iff_forall_ne_some]
  intro name defines
  -- a line that defines the address is entered under it
  obtain ⟨index, entry⟩ := List.mem_iff_getElem?.mp (List.mem_reverse.mp member)
  have at_index : (entries residue lines)[index]? =
      some (line.assign (residue.get index)).entry := by
    rw [getElem?_entries, entry]
    rfl
  have no_name := List.findSome?_eq_none_iff.mp unentered _
    (List.mem_reverse.mpr (List.mem_of_getElem? at_index))
  rw [nameIn_of_nameAt _ defines] at no_name
  exact nomatch no_name

/-- Every address has its last name exactly when what undefined symbols enter last is that name. -/
theorem lastEntered_eq_lastName_iff :
    (∀ addr, lastEntered residue lines addr = lastName lines addr) ↔
      ∀ index line, lines[index]? = some (.undefined line) →
        (∀ later > index, ∀ other, lines[later]? = some other →
          (other.assign (residue.get later)).addr ≠ (residue.get index).addr) →
        lastName lines (residue.get index).addr =
          some (cString (residue.get index).funcName.val) := by
  constructor
  · intro same index line entry none_after
    rw [← same, lastEntered_eq_some_iff]
    exact ⟨index, .undefined line, entry, nameIn_undefined line _, none_after⟩
  · intro shadowed addr
    cases entered : lastEntered residue lines addr with
    | none => exact (lastName_of_unentered entered).symm
    | some name =>
        obtain ⟨index, line, entry, has, none_after⟩ := lastEntered_eq_some_iff.mp entered
        symm
        cases line with
        | undefined line =>
            obtain ⟨rfl, name_eq⟩ := nameIn_eq_some_iff.mp has
            have kept : cString (residue.get index).funcName.val = name :=
              (cString_strncpy _).symm.trans name_eq
            exact (shadowed index line entry none_after).trans (congrArg some kept)
        | defined line =>
            obtain ⟨rfl, name_eq⟩ := nameIn_eq_some_iff.mp has
            have entered_name : line.name = name := (line.cString_info _).symm.trans name_eq
            exact lastName_of_nameAt entry ((if_pos rfl).trans (congrArg some entered_name))
              fun later later_gt other => none_after later later_gt (.defined other)

end Names

/-! ## Which listings are looked up right -/

/-- The address of a defined symbol is small enough. -/
theorem DefinedLine.address_lt_maxAddr (line : DefinedLine) : line.address < maxAddr := by
  have address_lt := line.address_lt
  rw [UInt64.lt_iff_toNat_lt, DefinedLine.address, UInt64.toNat_ofNat_of_lt' (by
    rw [UInt64.size]
    omega)]
  exact address_lt

/-- An entry whose address is too big is that of an undefined symbol. -/
theorem exists_undefined_of_maxAddr_le {residue : Stream' Locals} {lines : List NmLine}
    {entry : Entry} (member : entry ∈ entries residue lines) (too_big : maxAddr ≤ entry.1) :
    ∃ (index : Nat) (line : UndefinedLine),
      lines[index]? = some (.undefined line) ∧ maxAddr ≤ (residue.get index).addr := by
  obtain ⟨index, at_index⟩ := List.mem_iff_getElem?.mp member
  rw [getElem?_entries, Option.map_eq_some_iff] at at_index
  obtain ⟨line, line_entry, rfl⟩ := at_index
  cases line with
  | undefined line => exact ⟨index, line, line_entry, too_big⟩
  | defined line => exact absurd line.address_lt_maxAddr (UInt64.not_lt.mpr too_big)

/-- `parse_nm` on a listing. -/
theorem parseNm_listing (listing : Listing) (residue : Stream' Locals) (cells : Nat → ListCell)
    (nmPool : Nat → NmInfo) :
    (∃ table, parseNm residue cells nmPool (some (fileOf listing.terminated listing.lines)) =
        .table table ∧ Represents table (entries residue listing.lines).reverse ∧
          ∀ entry ∈ entries residue listing.lines, entry.1 < maxAddr) ∨
      parseNm residue cells nmPool (some (fileOf listing.terminated listing.lines)) = .null ∧
        ∃ entry ∈ entries residue listing.lines, maxAddr ≤ entry.1 := by
  have parsed := parseNmLoop_lines listing.terminated listing.short residue
    (represents_nil cells nmPool) (by
      rw [List.length_nil, Nat.zero_add]
      exact listing.length_le)
  rwa [List.append_nil] at parsed

/-- Symbols are found exactly when the undefined ones do no harm. -/
theorem symbols_found_iff (listing : Listing) (residue : Stream' Locals) (cells : Nat → ListCell)
    (nmPool : Nat → NmInfo) :
    SymbolsFound listing residue cells nmPool ↔ Harmless listing.lines residue := by
  rcases parseNm_listing listing residue cells nmPool with
    ⟨table, parsed, represents, below⟩ | ⟨parsed, entry, member, too_big⟩
  case inr =>
    obtain ⟨index, line, line_entry, too_big⟩ := exists_undefined_of_maxAddr_le member too_big
    refine iff_of_false ?_ fun harmless =>
      UInt64.not_lt.mpr too_big (harmless index line line_entry).1
    rintro ⟨table, parsed', -⟩
    exact nomatch parsed.symm.trans parsed'
  case inl =>
    have looked_up (addr : UInt64) {fuel : Nat}
        (enough : (entries residue listing.lines).reverse.length < fuel) :=
      represents.getFuncName addr enough
    have name_eq (addr : UInt64) :
        ((latest (entries residue listing.lines).reverse addr).map NmInfo.funcName).map
            (fun funcName => cString funcName.val) = lastEntered residue listing.lines addr := by
      rw [Option.map_map, lastEntered, ← latest_eq]
      rfl
    have found_iff : SymbolsFound listing residue cells nmPool ↔
        ∀ addr, lastEntered residue listing.lines addr = lastName listing.lines addr := by
      constructor
      · rintro ⟨table', parsed', finds⟩ addr
        obtain rfl : table = table' := Parsed.table.inj (parsed.symm.trans parsed')
        obtain ⟨enough, ends⟩ := finds addr
        obtain ⟨funcName, returns, name_eq'⟩ :=
          ends (max enough ((entries residue listing.lines).reverse.length + 1))
            (Nat.le_max_left _ _)
        rw [looked_up addr (Nat.lt_of_succ_le (Nat.le_max_right _ _)), Option.some.injEq] at returns
        rw [← name_eq, returns, name_eq']
      · intro same
        refine ⟨table, parsed, fun addr => ⟨_, fun fuel enough => ⟨_, looked_up addr enough, ?_⟩⟩⟩
        rw [name_eq, same]
    rw [found_iff, lastEntered_eq_lastName_iff]
    constructor
    · intro shadowed index line entry
      refine ⟨?_, shadowed index line entry⟩
      exact below _ (List.mem_of_getElem? (by
        rw [getElem?_entries, entry]
        rfl))
    · intro harmless index line entry
      exact (harmless index line entry).2
/-- The line `U a`. -/
def undefinedA : UndefinedLine where
  gap := [32]
  type := 85
  gap' := [32]
  name := [97]
  gap_blank := ⟨List.cons_ne_nil _ _, List.forall_mem_singleton.mpr (by decide)⟩
  type_letter := .inl ⟨by decide, by decide⟩
  type_not_hex := by decide
  gap'_blank := ⟨List.cons_ne_nil _ _, List.forall_mem_singleton.mpr (by decide)⟩
  name_plain := ⟨List.cons_ne_nil _ _, List.forall_mem_singleton.mpr (by decide)⟩

/-- A listing of that line. -/
def listingA : Listing where
  lines := [.undefined undefinedA]
  terminated := true
  length_le := by decide
  short := by decide

/-- Local variables that hold a big address. -/
def bigLocals : Locals where
  addr := 0xFFFFFFFFFFFFFFFF
  type := 0
  funcName := ⟨List.replicate 256 0, List.length_replicate⟩

/-- `parse_nm` rejects a listing that starts with an undefined symbol for what its local variables
hold. -/
theorem undefined_symbol_rejected :
    parseNm (Stream'.const bigLocals) (fun _ => { next := 0, addr := 0, nm := none })
        (fun _ => bigLocals.info) (some (fileOf listingA.terminated listingA.lines)) = .null ∧
      ¬ SymbolsFound listingA (Stream'.const bigLocals)
        (fun _ => { next := 0, addr := 0, nm := none }) fun _ => bigLocals.info := by
  have parsed : parseNm (Stream'.const bigLocals) (fun _ => { next := 0, addr := 0, nm := none })
      (fun _ => bigLocals.info) (some (fileOf listingA.terminated listingA.lines)) = .null := by
    rcases parseNm_listing listingA (Stream'.const bigLocals)
        (fun _ => { next := 0, addr := 0, nm := none }) (fun _ => bigLocals.info) with
      ⟨table, -, -, below⟩ | ⟨parsed, -⟩
    · exact absurd (below _ List.mem_cons_self) (UInt64.not_lt.mpr (by decide))
    · exact parsed
  refine ⟨parsed, ?_⟩
  rintro ⟨table, parsed', -⟩
  exact nomatch parsed.symm.trans parsed'

/-! ## Variables that keep their values -/

/-- What the local variables hold when each iteration finds in them what the one before left. -/
def keptLocals (first : Locals) (lines : List NmLine) : Stream' Locals := fun index =>
  (lines.take index).foldl NmLine.assign first

section Kept

variable {first : Locals} {lines : List NmLine} {index : Nat}

theorem keptLocals_succ (first : Locals) {line : NmLine} (entry : lines[index]? = some line) :
    (keptLocals first lines).get (index + 1) =
      line.assign ((keptLocals first lines).get index) := by
  have inside := (List.getElem?_eq_some_iff.mp entry).1
  have line_eq := (List.getElem?_eq_some_iff.mp entry).2
  change (lines.take (index + 1)).foldl NmLine.assign first = _
  rw [List.take_succ_eq_append_getElem inside, List.foldl_append, line_eq]
  rfl

/-- The variables hold what they held first until a symbol is defined, and then what the last one
left. -/
theorem keptLocals_cases (first : Locals) (index_le : index ≤ lines.length) :
    ((∀ earlier < index, ∀ line, lines[earlier]? ≠ some (.defined line)) ∧
        (keptLocals first lines).get index = first) ∨
      ∃ (place : Nat) (line : DefinedLine) (before : Locals), place < index ∧
        lines[place]? = some (.defined line) ∧
        (keptLocals first lines).get index = (NmLine.defined line).assign before ∧
        ∀ between > place, between < index → ∀ other, lines[between]? ≠ some (.defined other) := by
  induction index with
  | zero => exact .inl ⟨fun _ below => absurd below (Nat.not_lt_zero _), rfl⟩
  | succ index ih =>
      have inside : index < lines.length := index_le
      have entry := List.getElem?_eq_getElem inside
      have step := keptLocals_succ first entry
      cases line_eq : lines[index] with
      | defined line =>
          rw [line_eq] at entry step
          refine .inr ⟨index, line, _, Nat.lt_succ_self _, entry, step, ?_⟩
          intro between above below
          omega
      | undefined line =>
          rw [line_eq] at entry step
          have not_here (other : DefinedLine) : lines[index]? ≠ some (.defined other) := by
            rw [entry]
            exact nofun
          rcases ih (Nat.le_of_lt inside) with ⟨none_before, kept⟩ |
            ⟨place, defining, before, place_lt, place_entry, kept, none_between⟩
          · refine .inl ⟨fun earlier below other => ?_, step.trans kept⟩
            rcases Nat.lt_succ_iff_lt_or_eq.mp below with before | rfl
            · exact none_before earlier before other
            · exact not_here other
          · refine .inr ⟨place, defining, before, Nat.lt_succ_of_lt place_lt, place_entry,
              step.trans kept, fun between above below other => ?_⟩
            rcases Nat.lt_succ_iff_lt_or_eq.mp below with earlier | rfl
            · exact none_between between above earlier other
            · exact not_here other

/-- Where the first line is undefined and does no harm, the variables hold a small address first,
and some line defines it. -/
theorem defined_of_harmless {line : UndefinedLine}
    (harmless : Harmless lines (keptLocals first lines))
    (entry : lines[0]? = some (.undefined line)) :
    first.addr < maxAddr ∧ ∃ name, lastName lines first.addr = some name := by
  refine ⟨(harmless 0 line entry).1, ?_⟩
  have same := lastEntered_eq_lastName_iff.mpr fun index line entry =>
    (harmless index line entry).2
  rw [← same, ← Option.isSome_iff_exists, ← Option.ne_none_iff_isSome]
  intro unentered
  have first_entry : (entries (keptLocals first lines) lines)[0]? =
      some ((NmLine.undefined line).assign first).entry := by
    rw [getElem?_entries, entry]
    rfl
  have no_name := List.findSome?_eq_none_iff.mp unentered _
    (List.mem_reverse.mpr (List.mem_of_getElem? first_entry))
  rw [nameIn_undefined line first] at no_name
  exact nomatch no_name

/-- The first line is undefined where an undefined one comes before any defined one. -/
theorem exists_undefined_first {line : UndefinedLine}
    (entry : lines[index]? = some (.undefined line))
    (none_before : ∀ earlier < index, ∀ other, lines[earlier]? ≠ some (.defined other)) :
    ∃ other, lines[0]? = some (.undefined other) := by
  rcases Nat.eq_zero_or_pos index with rfl | positive
  · exact ⟨line, entry⟩
  · have inside : 0 < lines.length :=
      Nat.lt_trans positive (List.getElem?_eq_some_iff.mp entry).1
    have first_entry := List.getElem?_eq_getElem inside
    cases line_eq : lines[0] with
    | undefined other => exact ⟨other, line_eq ▸ first_entry⟩
    | defined other => exact absurd (line_eq ▸ first_entry) (none_before 0 positive other)

/-- Behind an undefined line that comes before any defined one, a line defines every address that
has a name. -/
theorem exists_defined_after {line : UndefinedLine} {addr : UInt64} {name : Bytes}
    (entry : lines[index]? = some (.undefined line))
    (none_before : ∀ earlier < index, ∀ other, lines[earlier]? ≠ some (.defined other))
    (defined : lastName lines addr = some name) :
    ∃ place > index, ∃ other, lines[place]? = some (.defined other) ∧ other.address = addr := by
  obtain ⟨place, other, place_entry, defines, -⟩ := findSome?_reverse_eq_some_iff.mp defined
  cases other with
  | undefined other => exact nomatch defines
  | defined other =>
      rw [NmLine.nameAt] at defines
      split_ifs at defines with same
      refine ⟨place, ?_, other, place_entry, same⟩
      rcases Nat.lt_trichotomy place index with earlier | rfl | later
      · exact absurd place_entry (none_before place earlier other)
      · exact nomatch entry.symm.trans place_entry
      · exact later

/-- With variables that keep their values a listing is looked up right exactly when it does not
start with an undefined symbol, or when the address that the variables hold first is small and a
line defines it. -/
theorem harmless_keptLocals_iff :
    Harmless lines (keptLocals first lines) ↔
      (∀ line, lines[0]? ≠ some (.undefined line)) ∨
        first.addr < maxAddr ∧ ∃ name, lastName lines first.addr = some name := by
  constructor
  · intro harmless
    rw [or_iff_not_imp_left]
    intro starts
    push Not at starts
    obtain ⟨line, entry⟩ := starts
    exact defined_of_harmless harmless entry
  · intro starts index line entry
    have inside := (List.getElem?_eq_some_iff.mp entry).1
    rcases keptLocals_cases first (Nat.le_of_lt inside) with ⟨none_before, kept⟩ |
      ⟨place, defining, before, place_lt, place_entry, kept, none_between⟩
    · obtain ⟨other, first_entry⟩ := exists_undefined_first entry none_before
      obtain ⟨small, name, defined⟩ := starts.resolve_left fun none_first =>
        none_first other first_entry
      rw [kept]
      refine ⟨small, fun none_after => ?_⟩
      -- the line that defines the address is entered later
      obtain ⟨place, place_gt, other, place_entry, same⟩ :=
        exists_defined_after entry none_before defined
      exact absurd same (none_after place place_gt _ place_entry)
    · rw [kept]
      refine ⟨defining.address_lt_maxAddr, fun none_after => ?_⟩
      have name_eq : cString ((NmLine.defined defining).assign before).funcName.val =
          defining.name :=
        (cString_strncpy _).symm.trans (defining.cString_info before)
      rw [name_eq]
      refine lastName_of_nameAt place_entry (if_pos rfl) fun later later_gt other other_entry => ?_
      rcases Nat.lt_trichotomy later index with earlier | rfl | after
      · exact absurd other_entry (none_between later later_gt earlier other)
      · exact nomatch entry.symm.trans other_entry
      · exact none_after later after (.defined other) other_entry

end Kept

end NmParse
end Profiler
end TaRef
