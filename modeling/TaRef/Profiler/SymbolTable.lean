import TaRef.Profiler.NmListing

/-!
# Symbol lookup

The table that `parse_nm` builds represents the entries that it made, the latest first in each
list, and `get_func_name` finds the latest entry of an address.  For which listings and contents of
the local variables that is the last line that defines the address is the main result.
-/

namespace TaRef
namespace Profiler
namespace NmParse

/-- An address and what was entered under it. -/
abbrev Entry := UInt64 × NmInfo

/-! ## The table and its entries -/

/-- Pointers to the cells of the entries with a key; the entries come latest first. -/
def bucket (key : Nat) : List Entry → List Nat
  | [] => []
  | entry :: older =>
      if getKey entry.1 = key then (hashSize + older.length) :: bucket key older
      else bucket key older

/-- Each entry has its cell and its element of `nm_pool`. -/
def Stored (table : Table) : List Entry → Prop
  | [] => True
  | entry :: older =>
      (table.cells (hashSize + older.length)).addr = entry.1 ∧
        (table.cells (hashSize + older.length)).nm = some older.length ∧
        table.nmPool older.length = entry.2 ∧ Stored table older

/-- The links of the cells. -/
def Table.next (table : Table) (pointer : Nat) : Nat := (table.cells pointer).next

/-- A table holds these entries, the latest first. -/
structure Represents (table : Table) (entries : List Entry) : Prop where
  allocated : table.allocated = entries.length
  idx : table.idx = entries.length
  stored : Stored table entries
  links : ∀ key < hashSize, CircularList.Links table.next key (bucket key entries)

theorem getKey_lt (addr : UInt64) : getKey addr < hashSize := Nat.mod_lt _ (by decide)

/-- Cells of entries lie behind the table and were allocated. -/
theorem mem_bucket {key pointer : Nat} {entries : List Entry}
    (member : pointer ∈ bucket key entries) :
    hashSize ≤ pointer ∧ pointer < hashSize + entries.length := by
  induction entries with
  | nil => exact absurd member List.not_mem_nil
  | cons entry older ih =>
      rw [List.length_cons]
      rw [bucket] at member
      split_ifs at member with same
      · rcases List.mem_cons.mp member with rfl | earlier
        · omega
        · have inside := ih earlier
          omega
      · have inside := ih member
        omega

theorem length_bucket_le (key : Nat) (entries : List Entry) :
    (bucket key entries).length ≤ entries.length := by
  induction entries with
  | nil => exact Nat.le_refl 0
  | cons entry older ih =>
      rw [bucket]
      split_ifs
      · exact Nat.succ_le_succ ih
      · exact Nat.le_succ_of_le ih

theorem Stored.congr {table other : Table} {entries : List Entry} (stored : Stored table entries)
    (same_cells : ∀ pointer, hashSize ≤ pointer → pointer < hashSize + entries.length →
      (other.cells pointer).addr = (table.cells pointer).addr ∧
        (other.cells pointer).nm = (table.cells pointer).nm)
    (same_pool : ∀ index < entries.length, other.nmPool index = table.nmPool index) :
    Stored other entries := by
  induction entries with
  | nil => trivial
  | cons entry older ih =>
      obtain ⟨addr_eq, nm_eq, info_eq, earlier⟩ := stored
      rw [List.length_cons] at same_cells same_pool
      obtain ⟨same_addr, same_nm⟩ := same_cells (hashSize + older.length) (by omega) (by omega)
      refine ⟨same_addr.trans addr_eq, same_nm.trans nm_eq,
        (same_pool older.length (by omega)).trans info_eq, ih earlier ?_ ?_⟩
      · exact fun pointer above below => same_cells pointer above (by omega)
      · exact fun index index_lt => same_pool index (by omega)

/-- The links after an insertion. -/
theorem next_insertNm (table : Table) (addr : UInt64) (nm : Nat) :
    (insertNm table addr nm).next =
      CircularList.insert table.next (getKey addr) (hashSize + table.allocated) := by
  have head_lt := getKey_lt addr
  funext pointer
  simp only [Table.next, insertNm, CircularList.insert]
  by_cases head : pointer = getKey addr
  · rw [head, Function.update_self, Function.update_self]
  · rw [Function.update_of_ne head, Function.update_of_ne head]
    by_cases elem : pointer = hashSize + table.allocated
    · rw [elem, Function.update_self, Function.update_self]
    · rw [Function.update_of_ne elem, Function.update_of_ne elem]
      rfl

/-- The data of the cells after an insertion. -/
theorem cells_insertNm (table : Table) (addr : UInt64) (nm : Nat) {pointer : Nat}
    (above : hashSize ≤ pointer) :
    (insertNm table addr nm).cells pointer =
      if pointer = hashSize + table.allocated then
        { next := table.next (getKey addr), addr, nm := some nm }
      else table.cells pointer := by
  have head_lt := getKey_lt addr
  simp only [insertNm]
  rw [Function.update_of_ne (by omega)]
  split_ifs with elem
  · rw [elem, Function.update_self]
    rfl
  · rw [Function.update_of_ne elem]

/-- The entry that an iteration makes. -/
def Locals.entry (locals : Locals) : Entry := (locals.addr, locals.info)

/-- An iteration puts its entry in front. -/
theorem Represents.enter {table : Table} {entries : List Entry}
    (represents : Represents table entries) (locals : Locals) :
    Represents (table.enter locals) (locals.entry :: entries) := by
  have allocated := represents.allocated
  have head_lt := getKey_lt locals.addr
  constructor
  · exact congrArg Nat.succ allocated
  · exact congrArg Nat.succ represents.idx
  · have cells_eq {pointer : Nat} (above : hashSize ≤ pointer) :=
      cells_insertNm { table with nmPool := Function.update table.nmPool table.idx locals.info }
        locals.addr table.idx above
    have newest := cells_eq (Nat.le_add_right hashSize entries.length)
    rw [if_pos (by rw [allocated])] at newest
    refine ⟨congrArg ListCell.addr newest, ?_, ?_, ?_⟩
    · exact (congrArg ListCell.nm newest).trans (congrArg some represents.idx)
    · rw [← represents.idx]
      exact Function.update_self _ _ _
    · refine represents.stored.congr (fun pointer above below => ?_) fun index index_lt => ?_
      · have kept := cells_eq above
        rw [if_neg (by rw [allocated]; omega)] at kept
        exact ⟨congrArg ListCell.addr kept, congrArg ListCell.nm kept⟩
      · exact Function.update_of_ne (by rw [represents.idx]; omega) _ _
  · intro key key_lt
    have next_eq : (table.enter locals).next =
        CircularList.insert table.next (getKey locals.addr) (hashSize + entries.length) := by
      rw [← allocated]
      exact next_insertNm _ locals.addr table.idx
    have fresh : hashSize + entries.length ∉ bucket key entries := fun member =>
      Nat.lt_irrefl _ (mem_bucket member).2
    have links := represents.links key key_lt
    rw [next_eq, bucket]
    obtain rfl | other := eq_or_ne (getKey locals.addr) key
    · rw [if_pos (show getKey locals.entry.1 = getKey locals.addr from rfl)]
      exact links.insert (by omega) fresh
    · rw [if_neg (show getKey locals.entry.1 ≠ key from other)]
      refine links.insert_other other (fun member => ?_) (by omega) fresh
      have above := (mem_bucket member).1
      omega

/-- The table before the first line. -/
theorem represents_nil (cells : Nat → ListCell) (nmPool : Nat → NmInfo) :
    Represents { cells := createHtable cells, allocated := 0, nmPool, idx := 0 } [] := by
  refine ⟨rfl, rfl, trivial, fun key key_lt => CircularList.links_nil ?_⟩
  simp only [Table.next, createHtable, if_pos key_lt]

/-! ## Lookup -/

/-- The latest entry of an address. -/
def latest (entries : List Entry) (addr : UInt64) : Option NmInfo :=
  (entries.find? fun entry => entry.1 == addr).map Prod.snd

/-- The loop of `get_func_name` is a search. -/
theorem getFuncNameLoop_eq (table : Table) (addr : UInt64) (head fuel elem : Nat) :
    getFuncNameLoop table addr head fuel elem =
      (CircularList.search table.next (fun pointer => (table.cells pointer).addr == addr) head fuel
        elem).bind fun found => match found with
          | none => some none
          | some pointer =>
              (table.cells pointer).nm.map fun nm => some (table.nmPool nm).funcName := by
  induction fuel generalizing elem with
  | zero => rfl
  | succ fuel ih =>
      rw [getFuncNameLoop, CircularList.search]
      split_ifs with at_head wanted found found
      · rfl
      · rfl
      · exact absurd (beq_iff_eq.mpr wanted) found
      · exact absurd (beq_iff_eq.mp found) wanted
      · exact ih _

/-- The first cell with an address is that of its latest entry. -/
theorem find?_bucket {table : Table} {entries : List Entry} (stored : Stored table entries)
    (addr : UInt64) :
    (match (bucket (getKey addr) entries).find? fun pointer =>
          (table.cells pointer).addr == addr with
      | none => some none
      | some pointer => (table.cells pointer).nm.map fun nm => some (table.nmPool nm).funcName) =
      some ((latest entries addr).map NmInfo.funcName) := by
  induction entries with
  | nil => rfl
  | cons entry older ih =>
      obtain ⟨addr_eq, nm_eq, info_eq, earlier⟩ := stored
      rw [bucket, latest, List.find?_cons]
      by_cases wanted : entry.1 = addr
      · rw [if_pos (congrArg getKey wanted), List.find?_cons, addr_eq, beq_iff_eq.mpr wanted]
        simp only [nm_eq, Option.map_some, info_eq]
      · have unwanted : (entry.1 == addr) = false := beq_eq_false_iff_ne.mpr wanted
        rw [unwanted]
        split_ifs with same
        · rw [List.find?_cons, addr_eq, unwanted]
          exact ih earlier
        · exact ih earlier

/-- `get_func_name` ends after as many cells as there are entries, and finds the latest entry of its
address. -/
theorem Represents.getFuncName {table : Table} {entries : List Entry}
    (represents : Represents table entries) (addr : UInt64) {fuel : Nat}
    (enough : entries.length < fuel) :
    getFuncName fuel table addr = some ((latest entries addr).map NmInfo.funcName) := by
  have links := represents.links (getKey addr) (getKey_lt addr)
  have found := links.search (fun pointer => (table.cells pointer).addr == addr)
    (Nat.lt_of_le_of_lt (length_bucket_le (getKey addr) entries) enough)
  rw [NmParse.getFuncName, getFuncNameLoop_eq]
  exact (congrArg (fun result => Option.bind result _) found).trans
    (find?_bucket represents.stored addr)

/-! ## The table of the analyzer -/

/-- The information that the analyzer shows. -/
def NmInfo.decode (info : NmInfo) : Profiler.NmInfo where
  type := Char.ofNat info.type.toNat
  funcName := String.ofList ((cString info.funcName.val).map fun char => Char.ofNat char.toNat)

/-- The lists of the table by key, without their cells. -/
def tableOf (entries : List Entry) : NmTable := fun key =>
  (entries.filter fun entry => getKey entry.1 = key).map fun entry => (entry.1, entry.2.decode)

theorem getFuncName_tableOf (entries : List Entry) (addr : UInt64) :
    Profiler.getFuncName (tableOf entries) addr =
      (latest entries addr).map fun info => info.decode.funcName := by
  rw [Profiler.getFuncName, tableOf, latest]
  induction entries with
  | nil => rfl
  | cons entry older ih =>
      by_cases wanted : entry.1 = addr
      · simp [wanted]
      · have unwanted : (entry.1 == addr) = false := beq_eq_false_iff_ne.mpr wanted
        rw [List.filter_cons, List.find?_cons, unwanted]
        split_ifs with same
        · rw [List.map_cons, List.find?_cons]
          simp only [unwanted]
          exact ih
        · exact ih

/-- The lists of linked cells refine the lists of the analyzer. -/
theorem Represents.refines {table : Table} {entries : List Entry}
    (represents : Represents table entries) (addr : UInt64) {fuel : Nat}
    (enough : entries.length < fuel) :
    ∃ info : Option NmInfo, NmParse.getFuncName fuel table addr = some (info.map NmInfo.funcName) ∧
      Profiler.getFuncName (tableOf entries) addr = info.map fun info => info.decode.funcName :=
  ⟨latest entries addr, represents.getFuncName addr enough, getFuncName_tableOf entries addr⟩

/-! ## Whole listings -/

/-- What the lines of a listing enter, in their order. -/
def entries : Stream' Locals → List NmLine → List Entry
  | _, [] => []
  | residue, line :: lines =>
      (line.assign residue.head).entry :: entries residue.tail lines

theorem getElem?_entries (residue : Stream' Locals) (lines : List NmLine) (index : Nat) :
    (entries residue lines)[index]? =
      lines[index]?.map fun line => (line.assign (residue.get index)).entry := by
  induction lines generalizing residue index with
  | nil => rfl
  | cons line lines ih =>
      cases index with
      | zero => rfl
      | succ index => exact ih residue.tail index

/-- `parse_nm` enters its lines up to the first address that is too big. -/
theorem parseNmLoop_lines (terminated : Bool) {lines : List NmLine}
    (short : ∀ line ∈ lines, line.bytes.length < 511) (residue : Stream' Locals) {table : Table}
    {older : List Entry} (represents : Represents table older)
    (room : older.length + lines.length ≤ poolSize) :
    (∃ last, parseNmLoop residue (fileOf terminated lines) table = .table last ∧
        Represents last ((entries residue lines).reverse ++ older) ∧
        ∀ entry ∈ entries residue lines, entry.1 < maxAddr) ∨
      parseNmLoop residue (fileOf terminated lines) table = .null ∧
        ∃ entry ∈ entries residue lines, maxAddr ≤ entry.1 := by
  induction lines generalizing residue table older with
  | nil =>
      exact .inl ⟨table, parseNmLoop_nil, represents, fun _ member =>
        absurd member List.not_mem_nil⟩
  | cons line lines ih =>
      rw [List.length_cons] at room
      obtain ⟨ending, newline, got⟩ :=
        fgets_fileOf terminated line lines (short line List.mem_cons_self)
      rw [parseNmLoop_cons got (sscanf_line line residue.head newline)
        (by rw [represents.idx]; omega)]
      by_cases too_big : (line.assign residue.head).addr ≥ maxAddr
      · exact .inr ⟨if_pos too_big, _, List.mem_cons_self, too_big⟩
      rw [if_neg too_big]
      rcases ih (fun line member => short line (List.mem_cons_of_mem _ member)) residue.tail
          (represents.enter (line.assign residue.head)) (by rw [List.length_cons]; omega) with
        ⟨last, parsed, represents', below⟩ | ⟨parsed, entry, member, too_big'⟩
      · refine .inl ⟨last, parsed, ?_, ?_⟩
        · rw [entries, List.reverse_cons, List.append_assoc]
          exact represents'
        · intro entry member
          rcases List.mem_cons.mp member with rfl | later
          · exact UInt64.not_le.mp too_big
          · exact below entry later
      · exact .inr ⟨parsed, entry, List.mem_cons_of_mem _ member, too_big'⟩

end NmParse
end Profiler
end TaRef
