import RtlFlow.Path
import RtlFlow.Text.Blank
import RtlFlow.Text.Unicode.CaseMap

/-! # File kinds

What a source or constraints file holds, and which toolchain flow a constraints file belongs to.
Both are read off the extension; an unknown extension means VHDL, and no flow. -/

namespace RtlFlow

open RtlFlow.Text.Unicode

/-- **The kind of a file.** -/
inductive FileKind where
  /-- VHDL source. -/
  | vhdl
  /-- Verilog source. -/
  | verilog
  /-- SystemVerilog source. -/
  | systemVerilog
  /-- A precompiled netlist. -/
  | netlist
  /-- A Tcl script. -/
  | tcl
  /-- User constraints of the ISE flow. -/
  | ucf
  /-- Synopsys design constraints. -/
  | sdc
  /-- Xilinx design constraints. -/
  | xdc
  deriving DecidableEq, Repr, Inhabited

namespace FileKind

/-- The name under which a kind is shown. -/
def label : FileKind → String
  | .vhdl => "VHDL"
  | .verilog => "Verilog"
  | .systemVerilog => "SystemVerilog"
  | .netlist => "netlist"
  | .tcl => "TCL"
  | .ucf => "UCF"
  | .sdc => "SDC"
  | .xdc => "XDC"

/-- The name under which a kind is written in data. -/
def keyword : FileKind → String
  | .vhdl => "vhdl"
  | .verilog => "verilog"
  | .systemVerilog => "systemverilog"
  | .netlist => "netlist"
  | .tcl => "tcl"
  | .ucf => "ucf"
  | .sdc => "sdc"
  | .xdc => "xdc"

/-- All kinds. -/
def all : List FileKind := [.vhdl, .verilog, .systemVerilog, .netlist, .tcl, .ucf, .sdc, .xdc]

/-- The kind with a keyword. -/
def ofKeyword? (s : String) : Option FileKind := all.find? fun k => k.keyword == s

/-- The kind of the files with an extension, which is given in lower case and without blanks. -/
def ofExtension : String → FileKind
  | "v" => .verilog
  | "sv" => .systemVerilog
  | "ngc" => .netlist
  | "tcl" => .tcl
  | "ucf" => .ucf
  | "sdc" => .sdc
  | "xdc" => .xdc
  | _ => .vhdl

/-- **The kind of a file by its path.** Blanks around the extension and the case of its ASCII
letters do not count. -/
def ofPath (p : Path) : FileKind :=
  match p.extension? with
  | some ext => ofExtension (asciiLowercase (Text.trim ext))
  | none => .vhdl

/-- Only VHDL text is scanned for the units that it needs and provides. -/
def isScanned (k : FileKind) : Bool := k == .vhdl

end FileKind

/-- The flow that an extension, given in lower case, implies. -/
def flowOfExtension? : String → Option String
  | "ucf" => some "ise"
  | "xdc" => some "vivado"
  | "sdc" => some "quartus"
  | "qsf" => some "quartus"
  | _ => none

end RtlFlow
