import W65816.Legend

set_option autoImplicit false

/-!
# The standard legend

The 25 addressing modes of the W65C816S datasheet with their symbols and names, and the
wordings of the reference listing that differ from the datasheet's names. The empty
description means implied.
-/

namespace W65816.Legend

/-- The datasheet's addressing modes, in datasheet order. -/
def datasheet : List LegendEntry := [
  ⟨"#A", "Immediate (size of accumulator)", .immediateMemory⟩,
  ⟨"#X", "Immediate (size of index)", .immediateIndex⟩,
  ⟨"#8", "Immediate 8-bit", .immediate8⟩,
  ⟨"r", "Program Counter Relative", .branch8⟩,
  ⟨"rl", "Program Counter Relative long", .branch16⟩,
  ⟨"I", "Implied", .implied⟩,
  ⟨"s", "Stack", .stack⟩,
  ⟨"d", "Direct", .directPage⟩,
  ⟨"d,x", "Direct indexed,X", .directPageX⟩,
  ⟨"d,y", "Direct indexed,Y", .directPageY⟩,
  ⟨"(d)", "Direct indirect", .directPageIndirect⟩,
  ⟨"(d,x)", "Direct indexed indirect", .directPageXIndirect⟩,
  ⟨"(d),y", "Direct indirect indexed", .directPageIndirectY⟩,
  ⟨"[d]", "Direct indirect long", .directPageIndirectLong⟩,
  ⟨"[d],y", "Direct indirect indexed long,Y", .directPageIndirectLongY⟩,
  ⟨"a", "Absolute", .absolute⟩,
  ⟨"a,x", "Absolute indexed,X", .absoluteX⟩,
  ⟨"a,y", "Absolute indexed,Y", .absoluteY⟩,
  ⟨"al", "Absolute long", .absoluteLong⟩,
  ⟨"al,x", "Absolute indexed long", .absoluteLongX⟩,
  ⟨"d,s", "Stack relative", .stackRelative⟩,
  ⟨"(d,s),y", "Stack relative indirect indexed,Y", .stackRelativeIndirectY⟩,
  ⟨"(a)", "Absolute indirect", .absoluteIndirect⟩,
  ⟨"(a,x)", "Absolute indexed indirect", .absoluteXIndirect⟩,
  ⟨"xyc", "Block move", .blockMove⟩]

/-- The listing's own wordings, each with the symbol of the mode it means. -/
def listingWordings : List (String × String) := [
  ("dp indexed indirect,x", "(d,x)"),
  ("dp indexed indirect, y", "(d),y"),
  ("direct page", "d"),
  ("dp indirect long", "[d]"),
  ("dp indirect indexed, y", "(d),y"),
  ("dp indirect long indexed, y", "[d],y"),
  ("dp indirect", "(d)"),
  ("dp indexed,x", "d,x"),
  ("dp indexed,y", "d,y"),
  ("sr indirect indexed,y", "(d,s),y"),
  ("absolute long indexed,x", "al,x"),
  ("accumulator", "I"),
  ("stack (dp indirect)", "s"),
  ("stack (pc relative long)", "s"),
  ("stack/interrupt", "s"),
  ("stack (absolute)", "s"),
  ("stack (push)", "s"),
  ("stack (pull)", "s"),
  ("stack (rti)", "s"),
  ("stack (rtl)", "s"),
  ("stack (rts)", "s"),
  ("absolute indirect long", "(a)"),
  ("", "I")]

/-- The standard legend: the datasheet's modes with the listing's wordings. -/
def standard : Except Fault Legend := build datasheet listingWordings

end W65816.Legend
