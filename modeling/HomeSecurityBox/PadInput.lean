import HomeSecurityBox.Base.Scanf
import HomeSecurityBox.ClientRequests
import HomeSecurityBox.ReplyCodec

/-!
What is typed at the pad: lines are read with `sscanf`, one format after the other, and
become packets in a buffer of 16 bytes. The line of every command is read as that
command, whatever its numbers are; all packets but that of `set timer` fit the buffer.
-/

namespace HomeSecurityBox.PadInput

open ByteMemory Protocol DeviceData Device TcpPacket Scanf

inductive PadCommand
  | getDevices
  | getInfo (dev : ℤ)
  | getStatus (dev : ℤ)
  | setStatus (dev id val : ℤ)
  | getTimer (dev timer : ℤ)
  | setTimer (dev timer : ℤ)
  | delTimer (dev timer : ℤ)
  | probe (drv : ℤ)
  | action (dev id param1 param2 : ℤ)
  deriving DecidableEq, Repr

/-- The formats in the order in which they are tried, each with the command that it
makes of as many values as it asks for. -/
def patterns : List (String × (List ℤ → Option PadCommand)) :=
  [("get info %d", fun | [dev] => some (.getInfo dev) | _ => none),
    ("get status %d", fun | [dev] => some (.getStatus dev) | _ => none),
    ("set status %d %d %d", fun | [dev, id, val] => some (.setStatus dev id val) | _ => none),
    ("get timer %d %d", fun | [dev, timer] => some (.getTimer dev timer) | _ => none),
    ("set timer %d %d", fun | [dev, timer] => some (.setTimer dev timer) | _ => none),
    ("del timer %d %d", fun | [dev, timer] => some (.delTimer dev timer) | _ => none),
    ("probe %d", fun | [drv] => some (.probe drv) | _ => none),
    ("action %d %d %d %x",
      fun | [dev, id, param1, param2] => some (.action dev id param1 param2) | _ => none)]

/-- `strncmp` for the first command, `sscanf` for the others. -/
def parse (text : List Char) : Option PadCommand :=
  if text.take 11 = "get devices".toList then some .getDevices
  else patterns.findSome? fun pattern => pattern.2 (sscanf text pattern.1)

/-- How a command is typed. -/
def PadCommand.line : PadCommand → List Char
  | .getDevices => "get devices".toList
  | .getInfo dev => render (directives "get info %d".toList) [dev]
  | .getStatus dev => render (directives "get status %d".toList) [dev]
  | .setStatus dev id val => render (directives "set status %d %d %d".toList) [dev, id, val]
  | .getTimer dev timer => render (directives "get timer %d %d".toList) [dev, timer]
  | .setTimer dev timer => render (directives "set timer %d %d".toList) [dev, timer]
  | .delTimer dev timer => render (directives "del timer %d %d".toList) [dev, timer]
  | .probe drv => render (directives "probe %d".toList) [drv]
  | .action dev id param1 param2 =>
      render (directives "action %d %d %d %x".toList) [dev, id, param1, param2]

/-- The numbers that an `int` holds, the last one of an action an `unsigned`; what
`sscanf` makes of others is left open. -/
def isInt (n : ℤ) : Bool := decide (-2147483648 ≤ n) && decide (n < 2147483648)

def isUnsigned (n : ℤ) : Bool := decide (0 ≤ n) && decide (n < 4294967296)

def PadCommand.readable : PadCommand → Bool
  | .getDevices => true
  | .getInfo n | .getStatus n | .probe n => isInt n
  | .setStatus dev id val => isInt dev && isInt id && isInt val
  | .getTimer dev timer | .setTimer dev timer | .delTimer dev timer => isInt dev && isInt timer
  | .action dev id param1 param2 =>
      isInt dev && isInt id && isInt param1 && isUnsigned param2

/-- The command that a packet carries. -/
def PadCommand.code : PadCommand → HsbCmd
  | .getDevices => .getDevs
  | .getInfo _ => .getInfo
  | .getStatus _ => .getStatus
  | .setStatus .. => .setStatus
  | .getTimer .. => .getTimer
  | .setTimer .. => .setTimer
  | .delTimer .. => .delTimer
  | .probe _ => .probeDev
  | .action .. => .doAction

def rbufSize : ℕ := 16

/-- The fields that are set, as if `rbuf` had room for all of them. -/
def PadCommand.packet : PadCommand → Frame
  | .getDevices => ⟨4, makeCmdHdr zeros .getDevs 4⟩
  | .getInfo dev => ⟨8, set32 (makeCmdHdr zeros .getInfo 8) 4 (UInt32.ofInt dev)⟩
  | .getStatus dev => ⟨8, set32 (makeCmdHdr zeros .getStatus 8) 4 (UInt32.ofInt dev)⟩
  | .setStatus dev id val =>
      let buf := set32 (makeCmdHdr zeros .setStatus 12) 4 (UInt32.ofInt dev)
      let buf := set16 buf 8 (UInt16.ofInt id)
      ⟨12, set16 buf 10 (UInt16.ofInt val)⟩
  | .getTimer dev timer =>
      let buf := set32 (makeCmdHdr zeros .getTimer 12) 4 (UInt32.ofInt dev)
      ⟨12, set16 buf 8 (UInt16.ofInt timer)⟩
  | .setTimer dev timer =>
      let buf := set32 (makeCmdHdr zeros .setTimer 24) 4 (UInt32.ofInt dev)
      let buf := set16 buf 8 (UInt16.ofInt timer)
      let buf := set8 buf 10 0xff
      let buf := set8 buf 11 0
      let buf := set8 buf 12 21
      let buf := set8 buf 13 49
      let buf := set8 buf 14 0
      let buf := set8 buf 15 0x7F
      let buf := set16 buf 16 0
      ⟨24, set16 buf 18 1⟩
  | .delTimer dev timer =>
      let buf := set32 (makeCmdHdr zeros .delTimer 12) 4 (UInt32.ofInt dev)
      ⟨12, set16 buf 8 (UInt16.ofInt timer)⟩
  | .probe drv => ⟨8, set16 (makeCmdHdr zeros .probeDev 8) 4 (UInt16.ofInt drv)⟩
  | .action dev id param1 param2 =>
      let buf := set32 (makeCmdHdr zeros .doAction 16) 4 (UInt32.ofInt dev)
      let buf := set16 buf 8 (UInt16.ofInt id)
      let buf := set16 buf 10 (UInt16.ofInt param1)
      ⟨16, set32 buf 12 (UInt32.ofInt param2)⟩

/-- What a line leads to: a message, an access outside `rbuf` or a `write`. -/
inductive Typed
  | invalid
  | undefined
  | written (bytes : List UInt8)
  deriving DecidableEq, Repr

def dealInputCmd (text : List Char) : Typed :=
  match parse text with
  | none => .invalid
  | some cmd =>
      if cmd.readable && decide (cmd.packet.len ≤ rbufSize) then .written cmd.packet.bytes
      else .undefined

/-- The formats in front of the `i`-th one differ from it in a literal, and so does the
first word. -/
def FirstToMatch (i : ℕ) (fmt : List Directive) : Prop :=
  (patterns.take i).all (fun pattern => Clash (directives pattern.1.toList) fmt) = true ∧
    Clash ("get devices".toList.map fun c => if isSpace c then .space else .lit c) fmt = true ∧
    Clean fmt

instance (i : ℕ) (fmt : List Directive) : Decidable (FirstToMatch i fmt) :=
  inferInstanceAs (Decidable (_ ∧ _ ∧ _))

theorem patterns_nil : ∀ pattern ∈ patterns, pattern.2 [] = none := by
  simp [patterns]

theorem parse_render {i : ℕ} {fmt : String} {make : List ℤ → Option PadCommand}
    {values : List ℤ} {cmd : PadCommand} {rest : List Char}
    (hpattern : patterns[i]? = some (fmt, make)) (hfirst : FirstToMatch i (directives fmt.toList))
    (harity : values.length = arity (directives fmt.toList)) (hmake : make values = some cmd)
    (hrest : Ended rest) : parse (render (directives fmt.toList) values ++ rest) = some cmd := by
  obtain ⟨hothers, hword, hclean⟩ := hfirst
  obtain ⟨hlt, hget⟩ := List.getElem?_eq_some_iff.mp hpattern
  have hsplit : patterns = patterns.take i ++ (fmt, make) :: patterns.drop (i + 1) := by
    rw [← hget, ← List.drop_eq_getElem_cons hlt, List.take_append_drop]
  have hearlier : (patterns.take i).findSome? (fun pattern =>
      pattern.2 (sscanf (render (directives fmt.toList) values ++ rest) pattern.1)) = none := by
    rw [List.findSome?_eq_none_iff]
    intro pattern hmem
    rw [sscanf, scan_of_clash (List.all_eq_true.mp hothers pattern hmem) hclean]
    exact patterns_nil pattern (List.mem_of_mem_take hmem)
  have hnotDevices : (render (directives fmt.toList) values ++ rest).take 11 ≠
      "get devices".toList := take_ne_of_clash hword values rest
  have hfound : make (sscanf (render (directives fmt.toList) values ++ rest) fmt) = some cmd := by
    rw [sscanf, scan_render hclean harity hrest]
    exact hmake
  unfold parse
  rw [if_neg hnotDevices, hsplit, List.findSome?_append, hearlier, Option.none_or,
    List.findSome?_cons]
  simp only [hfound]

/-- Every command is read from its line and from no other command's. -/
theorem parse_line (cmd : PadCommand) {rest : List Char} (hrest : Ended rest) :
    parse (cmd.line ++ rest) = some cmd := by
  cases cmd with
  | getDevices => exact if_pos rfl
  | getInfo => exact parse_render (i := 0) rfl (by decide) rfl rfl hrest
  | getStatus => exact parse_render (i := 1) rfl (by decide) rfl rfl hrest
  | setStatus => exact parse_render (i := 2) rfl (by decide) rfl rfl hrest
  | getTimer => exact parse_render (i := 3) rfl (by decide) rfl rfl hrest
  | setTimer => exact parse_render (i := 4) rfl (by decide) rfl rfl hrest
  | delTimer => exact parse_render (i := 5) rfl (by decide) rfl rfl hrest
  | probe => exact parse_render (i := 6) rfl (by decide) rfl rfl hrest
  | action => exact parse_render (i := 7) rfl (by decide) rfl rfl hrest

theorem packet_header (cmd : PadCommand) :
    get16 cmd.packet.buf 0 = cmd.code.code ∧
      get16 cmd.packet.buf 2 = UInt16.ofNat cmd.packet.len ∧ 4 ≤ cmd.packet.len ∧
      cmd.packet.len ≤ 24 := by
  cases cmd <;>
    simp (disch := omega) only [PadCommand.packet, PadCommand.code, get16_set32_other,
      get16_set16_other, get16_set8_other, get16_makeCmdHdr_cmd, get16_makeCmdHdr_len] <;>
    decide

/-- What stands in the receive buffer is the packet, whatever is behind it. -/
theorem packet_agree (cmd : PadCommand) (stale : Memory) :
    AgreeBelow cmd.packet.len (load cmd.packet.bytes stale) cmd.packet.buf :=
  load_take_agree cmd.packet.buf stale cmd.packet.len

theorem packet_accepted (cmd : PadCommand) (stale : Memory) :
    get16 (load cmd.packet.bytes stale) 0 = cmd.code.code ∧
      (get16 (load cmd.packet.bytes stale) 2).toNat = cmd.packet.len ∧
      checkTcpPktValid (load cmd.packet.bytes stale) cmd.packet.len = 0 := by
  obtain ⟨hcmd, hlen, hlow, hhigh⟩ := packet_header cmd
  have hagree := packet_agree cmd stale
  have hcode : get16 (load cmd.packet.bytes stale) 0 = cmd.code.code :=
    (hagree.get16 (by omega)).trans hcmd
  have hsize : (get16 (load cmd.packet.bytes stale) 2).toNat = cmd.packet.len := by
    rw [hagree.get16 (by omega), hlen, UInt16.toNat_ofNat']
    omega
  refine ⟨hcode, hsize, ?_⟩
  rw [checkTcpPktValid_eq_zero_iff, hcode, hsize]
  exact ⟨by omega, HsbCmd.code_valid cmd.code, Nat.le_refl _⟩

/-- The numbers of a command stand where its handler reads them, cut to their fields. -/
def PadCommand.Carries (cmd : PadCommand) (m : Memory) : Prop :=
  match cmd with
  | .getDevices => True
  | .getInfo dev | .getStatus dev => get32 m 4 = UInt32.ofInt dev
  | .setStatus dev id val =>
      get32 m 4 = UInt32.ofInt dev ∧ get16 m 8 = UInt16.ofInt id ∧
        get16 m 10 = UInt16.ofInt val
  | .getTimer dev timer | .setTimer dev timer | .delTimer dev timer =>
      get32 m 4 = UInt32.ofInt dev ∧ get16 m 8 = UInt16.ofInt timer
  | .probe drv => get16 m 4 = UInt16.ofInt drv
  | .action dev id param1 param2 =>
      get32 m 4 = UInt32.ofInt dev ∧ get16 m 8 = UInt16.ofInt id ∧
        get16 m 10 = UInt16.ofInt param1 ∧ get32 m 12 = UInt32.ofInt param2

theorem packet_carries (cmd : PadCommand) (stale : Memory) :
    cmd.Carries (load cmd.packet.bytes stale) := by
  have hagree := packet_agree cmd stale
  cases cmd with
  | getDevices => trivial
  | getInfo dev | getStatus dev =>
    simp only [PadCommand.Carries]
    rw [hagree.get32 (show 4 + 4 ≤ 8 by decide)]
    simp only [PadCommand.packet, get32_set32]
  | setStatus dev id val =>
    simp only [PadCommand.Carries]
    rw [hagree.get32 (show 4 + 4 ≤ 12 by decide), hagree.get16 (show 8 + 2 ≤ 12 by decide),
      hagree.get16 (show 10 + 2 ≤ 12 by decide)]
    simp (disch := omega) only [PadCommand.packet, get32_set16_other, get32_set32,
      get16_set16_other, get16_set16, and_self]
  | getTimer dev timer | delTimer dev timer =>
    simp only [PadCommand.Carries]
    rw [hagree.get32 (show 4 + 4 ≤ 12 by decide), hagree.get16 (show 8 + 2 ≤ 12 by decide)]
    simp (disch := omega) only [PadCommand.packet, get32_set16_other, get32_set32, get16_set16,
      and_self]
  | setTimer dev timer =>
    simp only [PadCommand.Carries]
    rw [hagree.get32 (show 4 + 4 ≤ 24 by decide), hagree.get16 (show 8 + 2 ≤ 24 by decide)]
    simp (disch := omega) only [PadCommand.packet, get32_set16_other, get32_set8_other,
      get32_set32, get16_set16_other, get16_set8_other, get16_set16, and_self]
  | probe drv =>
    simp only [PadCommand.Carries]
    rw [hagree.get16 (show 4 + 2 ≤ 8 by decide)]
    simp only [PadCommand.packet, get16_set16]
  | action dev id param1 param2 =>
    simp only [PadCommand.Carries]
    rw [hagree.get32 (show 4 + 4 ≤ 16 by decide), hagree.get16 (show 8 + 2 ≤ 16 by decide),
      hagree.get16 (show 10 + 2 ≤ 16 by decide), hagree.get32 (show 12 + 4 ≤ 16 by decide)]
    simp (disch := omega) only [PadCommand.packet, get32_set16_other, get32_set32_other,
      get32_set32, get16_set32_other, get16_set16_other, get16_set16, and_self]

theorem packet_layout (cmd : PadCommand) : layoutEnd cmd.code.code ≤ cmd.packet.len := by
  cases cmd <;> simp only [layoutEnd, PadCommand.code, HsbCmd.ofCode_code, PadCommand.packet] <;>
    decide

theorem packet_fits_iff (cmd : PadCommand) :
    cmd.packet.len ≤ rbufSize ↔ ∀ dev timer, cmd ≠ .setTimer dev timer := by
  cases cmd <;> simp [PadCommand.packet, rbufSize]

theorem dealInputCmd_line {cmd : PadCommand} {rest : List Char} (hrest : Ended rest)
    (hreadable : cmd.readable = true) :
    dealInputCmd (cmd.line ++ rest) =
      if cmd.packet.len ≤ rbufSize then .written cmd.packet.bytes else .undefined := by
  unfold dealInputCmd
  simp only [parse_line cmd hrest, hreadable, Bool.true_and, decide_eq_true_eq]

/-- A line is read as its command. Only that of `set timer` writes outside the buffer;
every other line is sent as a packet that the box accepts, with the command, its length and
its numbers in the fields that the handler of the command reads. -/
theorem typed_lines (cmd : PadCommand) (rest : List Char) (hrest : Ended rest)
    (hreadable : cmd.readable = true) :
    parse (cmd.line ++ rest) = some cmd ∧
      (dealInputCmd (cmd.line ++ rest) = .undefined ↔ ∃ dev timer, cmd = .setTimer dev timer) ∧
      ((∀ dev timer, cmd ≠ .setTimer dev timer) → ∃ bytes,
        dealInputCmd (cmd.line ++ rest) = .written bytes ∧ ∀ stale,
          checkTcpPktValid (load bytes stale) bytes.length = 0 ∧
            get16 (load bytes stale) 0 = cmd.code.code ∧
            (get16 (load bytes stale) 2).toNat = bytes.length ∧
            cmd.Carries (load bytes stale) ∧
            layoutEnd cmd.code.code ≤ bytes.length ∧ bytes.length ≤ rbufSize) := by
  refine ⟨parse_line cmd hrest, ?_⟩
  rw [dealInputCmd_line hrest hreadable]
  by_cases hfits : cmd.packet.len ≤ rbufSize
  · rw [if_pos hfits]
    refine ⟨?_, ?_⟩
    · constructor
      · intro h
        contradiction
      · rintro ⟨dev, timer, rfl⟩
        exact absurd rfl ((packet_fits_iff _).mp hfits dev timer)
    · intro _
      refine ⟨cmd.packet.bytes, rfl, ?_⟩
      intro stale
      obtain ⟨hcode, hsize, haccept⟩ := packet_accepted cmd stale
      rw [Frame.bytes_length]
      exact ⟨haccept, hcode, hsize, packet_carries cmd stale, packet_layout cmd, hfits⟩
  · rw [if_neg hfits]
    refine ⟨⟨fun _ => ?_, fun _ => rfl⟩, ?_⟩
    · by_contra hother
      exact hfits ((packet_fits_iff cmd).mpr fun dev timer hset => hother ⟨dev, timer, hset⟩)
    · intro hother
      exact absurd ((packet_fits_iff cmd).mpr hother) hfits

theorem typed_lines_action :
    parse "action 1 7 2 ab\n".toList = some (.action 1 7 2 171) ∧ ∃ bytes,
      dealInputCmd "action 1 7 2 ab\n".toList = .written bytes ∧
        checkTcpPktValid (load bytes zeros) bytes.length = 0 ∧
        get32 (load bytes zeros) 4 = 1 ∧ get32 (load bytes zeros) 12 = 171 := by
  have htext : "action 1 7 2 ab\n".toList = (PadCommand.action 1 7 2 171).line ++ ['\n'] := by
    decide
  obtain ⟨hparse, -, hwritten⟩ := typed_lines (.action 1 7 2 171) ['\n'] (by decide) (by decide)
  obtain ⟨bytes, hbytes, hpacket⟩ := hwritten (by simp)
  obtain ⟨haccept, -, -, hcarries, -⟩ := hpacket zeros
  rw [htext]
  exact ⟨hparse, bytes, hbytes, haccept, hcarries.1, hcarries.2.2.2⟩

end HomeSecurityBox.PadInput
