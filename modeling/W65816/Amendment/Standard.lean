import W65816.Amendment

set_option autoImplicit false

/-!
# The standard amendments

The hand-kept classification of 202 opcodes, in the order they are kept: grouped by
operation, not by opcode.
-/

namespace W65816.Amendment

/-- The standard amendments. -/
def standard : List Amendment := [
  ⟨Opcode.ofByte 0x24, "BIT", .directPage, .memory⟩,
  ⟨Opcode.ofByte 0x2C, "BIT", .absolute, .memory⟩,
  ⟨Opcode.ofByte 0x34, "BIT", .directPageX, .memory⟩,
  ⟨Opcode.ofByte 0x3C, "BIT", .absoluteX, .memory⟩,
  ⟨Opcode.ofByte 0x89, "BIT", .immediateMemory, .memory⟩,
  ⟨Opcode.ofByte 0x1A, "INC", .accumulator, .memory⟩,
  ⟨Opcode.ofByte 0xE6, "INC", .directPage, .memory⟩,
  ⟨Opcode.ofByte 0xEE, "INC", .absolute, .memory⟩,
  ⟨Opcode.ofByte 0xF6, "INC", .directPageX, .memory⟩,
  ⟨Opcode.ofByte 0xFE, "INC", .absoluteX, .memory⟩,
  ⟨Opcode.ofByte 0x3A, "DEC", .accumulator, .memory⟩,
  ⟨Opcode.ofByte 0xC6, "DEC", .directPage, .memory⟩,
  ⟨Opcode.ofByte 0xCE, "DEC", .absolute, .memory⟩,
  ⟨Opcode.ofByte 0xD6, "DEC", .directPageX, .memory⟩,
  ⟨Opcode.ofByte 0xDE, "DEC", .absoluteX, .memory⟩,
  ⟨Opcode.ofByte 0x26, "ROL", .directPage, .memory⟩,
  ⟨Opcode.ofByte 0x2A, "ROL", .accumulator, .memory⟩,
  ⟨Opcode.ofByte 0x2E, "ROL", .absolute, .memory⟩,
  ⟨Opcode.ofByte 0x36, "ROL", .directPageX, .memory⟩,
  ⟨Opcode.ofByte 0x3E, "ROL", .absoluteX, .memory⟩,
  ⟨Opcode.ofByte 0x66, "ROR", .directPage, .memory⟩,
  ⟨Opcode.ofByte 0x6A, "ROR", .accumulator, .memory⟩,
  ⟨Opcode.ofByte 0x6E, "ROR", .absolute, .memory⟩,
  ⟨Opcode.ofByte 0x76, "ROR", .directPageX, .memory⟩,
  ⟨Opcode.ofByte 0x7E, "ROR", .absoluteX, .memory⟩,
  ⟨Opcode.ofByte 0x06, "ASL", .directPage, .memory⟩,
  ⟨Opcode.ofByte 0x0A, "ASL", .accumulator, .memory⟩,
  ⟨Opcode.ofByte 0x0E, "ASL", .absolute, .memory⟩,
  ⟨Opcode.ofByte 0x16, "ASL", .directPageX, .memory⟩,
  ⟨Opcode.ofByte 0x1E, "ASL", .absoluteX, .memory⟩,
  ⟨Opcode.ofByte 0x46, "LSR", .directPage, .memory⟩,
  ⟨Opcode.ofByte 0x4A, "LSR", .accumulator, .memory⟩,
  ⟨Opcode.ofByte 0x4E, "LSR", .absolute, .memory⟩,
  ⟨Opcode.ofByte 0x56, "LSR", .directPageX, .memory⟩,
  ⟨Opcode.ofByte 0x5E, "LSR", .absoluteX, .memory⟩,
  ⟨Opcode.ofByte 0x90, "BCC", .branch8, .unsized⟩,
  ⟨Opcode.ofByte 0xB0, "BCS", .branch8, .unsized⟩,
  ⟨Opcode.ofByte 0xF0, "BEQ", .branch8, .unsized⟩,
  ⟨Opcode.ofByte 0x30, "BMI", .branch8, .unsized⟩,
  ⟨Opcode.ofByte 0xD0, "BNE", .branch8, .unsized⟩,
  ⟨Opcode.ofByte 0x10, "BPL", .branch8, .unsized⟩,
  ⟨Opcode.ofByte 0x80, "BRA", .branch8, .unsized⟩,
  ⟨Opcode.ofByte 0x82, "BRL", .branch16, .unsized⟩,
  ⟨Opcode.ofByte 0x50, "BVC", .branch8, .unsized⟩,
  ⟨Opcode.ofByte 0x70, "BVS", .branch8, .unsized⟩,
  ⟨Opcode.ofByte 0x4C, "JMP", .absolute, .unsized⟩,
  ⟨Opcode.ofByte 0x6C, "JMP", .absoluteIndirect, .unsized⟩,
  ⟨Opcode.ofByte 0x7C, "JMP", .absoluteXIndirect, .unsized⟩,
  ⟨Opcode.ofByte 0x5C, "JML", .absoluteLong, .unsized⟩,
  ⟨Opcode.ofByte 0xDC, "JML", .absoluteIndirectLong, .unsized⟩,
  ⟨Opcode.ofByte 0x20, "JSR", .absolute, .unsized⟩,
  ⟨Opcode.ofByte 0xFC, "JSR", .absoluteXIndirect, .unsized⟩,
  ⟨Opcode.ofByte 0x22, "JSL", .absoluteLong, .unsized⟩,
  ⟨Opcode.ofByte 0x86, "STX", .directPage, .index⟩,
  ⟨Opcode.ofByte 0x8E, "STX", .absolute, .index⟩,
  ⟨Opcode.ofByte 0x96, "STX", .directPageY, .index⟩,
  ⟨Opcode.ofByte 0x84, "STY", .directPage, .index⟩,
  ⟨Opcode.ofByte 0x8C, "STY", .absolute, .index⟩,
  ⟨Opcode.ofByte 0x94, "STY", .directPageX, .index⟩,
  ⟨Opcode.ofByte 0x64, "STZ", .directPage, .memory⟩,
  ⟨Opcode.ofByte 0x74, "STZ", .directPageX, .memory⟩,
  ⟨Opcode.ofByte 0x9C, "STZ", .absolute, .memory⟩,
  ⟨Opcode.ofByte 0x9E, "STZ", .absoluteX, .memory⟩,
  ⟨Opcode.ofByte 0xA2, "LDX", .immediateIndex, .index⟩,
  ⟨Opcode.ofByte 0xA6, "LDX", .directPage, .index⟩,
  ⟨Opcode.ofByte 0xAE, "LDX", .absolute, .index⟩,
  ⟨Opcode.ofByte 0xB6, "LDX", .directPageY, .index⟩,
  ⟨Opcode.ofByte 0xBE, "LDX", .absoluteY, .index⟩,
  ⟨Opcode.ofByte 0xA0, "LDY", .immediateIndex, .index⟩,
  ⟨Opcode.ofByte 0xA4, "LDY", .directPage, .index⟩,
  ⟨Opcode.ofByte 0xAC, "LDY", .absolute, .index⟩,
  ⟨Opcode.ofByte 0xB4, "LDY", .directPageX, .index⟩,
  ⟨Opcode.ofByte 0xBC, "LDY", .absoluteX, .index⟩,
  ⟨Opcode.ofByte 0x04, "TSB", .directPage, .memory⟩,
  ⟨Opcode.ofByte 0x0C, "TSB", .absolute, .memory⟩,
  ⟨Opcode.ofByte 0x14, "TRB", .directPage, .memory⟩,
  ⟨Opcode.ofByte 0x1C, "TRB", .absolute, .memory⟩,
  ⟨Opcode.ofByte 0xC0, "CPY", .immediateIndex, .index⟩,
  ⟨Opcode.ofByte 0xC4, "CPY", .directPage, .index⟩,
  ⟨Opcode.ofByte 0xCC, "CPY", .absolute, .index⟩,
  ⟨Opcode.ofByte 0xE0, "CPX", .immediateIndex, .index⟩,
  ⟨Opcode.ofByte 0xE4, "CPX", .directPage, .index⟩,
  ⟨Opcode.ofByte 0xEC, "CPX", .absolute, .index⟩,
  ⟨Opcode.ofByte 0xA1, "LDA", .directPageXIndirect, .memory⟩,
  ⟨Opcode.ofByte 0xA3, "LDA", .stackRelative, .memory⟩,
  ⟨Opcode.ofByte 0xA5, "LDA", .directPage, .memory⟩,
  ⟨Opcode.ofByte 0xAF, "LDA", .absoluteLong, .memory⟩,
  ⟨Opcode.ofByte 0xA7, "LDA", .directPageIndirectLong, .memory⟩,
  ⟨Opcode.ofByte 0xA9, "LDA", .immediateMemory, .memory⟩,
  ⟨Opcode.ofByte 0xAD, "LDA", .absolute, .memory⟩,
  ⟨Opcode.ofByte 0xB1, "LDA", .directPageIndirectY, .memory⟩,
  ⟨Opcode.ofByte 0xB2, "LDA", .directPageIndirect, .memory⟩,
  ⟨Opcode.ofByte 0xB3, "LDA", .stackRelativeIndirectY, .memory⟩,
  ⟨Opcode.ofByte 0xB5, "LDA", .directPageX, .memory⟩,
  ⟨Opcode.ofByte 0xB7, "LDA", .directPageIndirectLongY, .memory⟩,
  ⟨Opcode.ofByte 0xB9, "LDA", .absoluteY, .memory⟩,
  ⟨Opcode.ofByte 0xBD, "LDA", .absoluteX, .memory⟩,
  ⟨Opcode.ofByte 0xBF, "LDA", .absoluteLongX, .memory⟩,
  ⟨Opcode.ofByte 0x81, "STA", .directPageXIndirect, .memory⟩,
  ⟨Opcode.ofByte 0x83, "STA", .stackRelative, .memory⟩,
  ⟨Opcode.ofByte 0x85, "STA", .directPage, .memory⟩,
  ⟨Opcode.ofByte 0x87, "STA", .directPageIndirectLong, .memory⟩,
  ⟨Opcode.ofByte 0x8D, "STA", .absolute, .memory⟩,
  ⟨Opcode.ofByte 0x8F, "STA", .absoluteLong, .memory⟩,
  ⟨Opcode.ofByte 0x91, "STA", .directPageIndirectY, .memory⟩,
  ⟨Opcode.ofByte 0x92, "STA", .directPageIndirect, .memory⟩,
  ⟨Opcode.ofByte 0x93, "STA", .stackRelativeIndirectY, .memory⟩,
  ⟨Opcode.ofByte 0x95, "STA", .directPageX, .memory⟩,
  ⟨Opcode.ofByte 0x97, "STA", .directPageIndirectLongY, .memory⟩,
  ⟨Opcode.ofByte 0x99, "STA", .absoluteY, .memory⟩,
  ⟨Opcode.ofByte 0x9D, "STA", .absoluteX, .memory⟩,
  ⟨Opcode.ofByte 0x9F, "STA", .absoluteLongX, .memory⟩,
  ⟨Opcode.ofByte 0x61, "ADC", .directPageXIndirect, .memory⟩,
  ⟨Opcode.ofByte 0x63, "ADC", .stackRelative, .memory⟩,
  ⟨Opcode.ofByte 0x65, "ADC", .directPage, .memory⟩,
  ⟨Opcode.ofByte 0x67, "ADC", .directPageIndirectLong, .memory⟩,
  ⟨Opcode.ofByte 0x69, "ADC", .immediateMemory, .memory⟩,
  ⟨Opcode.ofByte 0x6D, "ADC", .absolute, .memory⟩,
  ⟨Opcode.ofByte 0x6F, "ADC", .absoluteLong, .memory⟩,
  ⟨Opcode.ofByte 0x71, "ADC", .directPageIndirectY, .memory⟩,
  ⟨Opcode.ofByte 0x72, "ADC", .directPageIndirect, .memory⟩,
  ⟨Opcode.ofByte 0x73, "ADC", .stackRelativeIndirectY, .memory⟩,
  ⟨Opcode.ofByte 0x75, "ADC", .directPageX, .memory⟩,
  ⟨Opcode.ofByte 0x77, "ADC", .directPageIndirectLongY, .memory⟩,
  ⟨Opcode.ofByte 0x79, "ADC", .absoluteY, .memory⟩,
  ⟨Opcode.ofByte 0x7D, "ADC", .absoluteX, .memory⟩,
  ⟨Opcode.ofByte 0x7F, "ADC", .absoluteLongX, .memory⟩,
  ⟨Opcode.ofByte 0xE1, "SBC", .directPageXIndirect, .memory⟩,
  ⟨Opcode.ofByte 0xE3, "SBC", .stackRelative, .memory⟩,
  ⟨Opcode.ofByte 0xE5, "SBC", .directPage, .memory⟩,
  ⟨Opcode.ofByte 0xE7, "SBC", .directPageIndirectLong, .memory⟩,
  ⟨Opcode.ofByte 0xE9, "SBC", .immediateMemory, .memory⟩,
  ⟨Opcode.ofByte 0xED, "SBC", .absolute, .memory⟩,
  ⟨Opcode.ofByte 0xEF, "SBC", .absoluteLong, .memory⟩,
  ⟨Opcode.ofByte 0xF1, "SBC", .directPageIndirectY, .memory⟩,
  ⟨Opcode.ofByte 0xF2, "SBC", .directPageIndirect, .memory⟩,
  ⟨Opcode.ofByte 0xF3, "SBC", .stackRelativeIndirectY, .memory⟩,
  ⟨Opcode.ofByte 0xF5, "SBC", .directPageX, .memory⟩,
  ⟨Opcode.ofByte 0xF7, "SBC", .directPageIndirectLongY, .memory⟩,
  ⟨Opcode.ofByte 0xF9, "SBC", .absoluteY, .memory⟩,
  ⟨Opcode.ofByte 0xFD, "SBC", .absoluteX, .memory⟩,
  ⟨Opcode.ofByte 0xFF, "SBC", .absoluteLongX, .memory⟩,
  ⟨Opcode.ofByte 0x21, "AND", .directPageXIndirect, .memory⟩,
  ⟨Opcode.ofByte 0x23, "AND", .stackRelative, .memory⟩,
  ⟨Opcode.ofByte 0x25, "AND", .directPage, .memory⟩,
  ⟨Opcode.ofByte 0x27, "AND", .directPageIndirectLong, .memory⟩,
  ⟨Opcode.ofByte 0x29, "AND", .immediateMemory, .memory⟩,
  ⟨Opcode.ofByte 0x2D, "AND", .absolute, .memory⟩,
  ⟨Opcode.ofByte 0x2F, "AND", .absoluteLong, .memory⟩,
  ⟨Opcode.ofByte 0x31, "AND", .directPageIndirectY, .memory⟩,
  ⟨Opcode.ofByte 0x32, "AND", .directPageIndirect, .memory⟩,
  ⟨Opcode.ofByte 0x33, "AND", .stackRelativeIndirectY, .memory⟩,
  ⟨Opcode.ofByte 0x35, "AND", .directPageX, .memory⟩,
  ⟨Opcode.ofByte 0x37, "AND", .directPageIndirectLongY, .memory⟩,
  ⟨Opcode.ofByte 0x39, "AND", .absoluteY, .memory⟩,
  ⟨Opcode.ofByte 0x3D, "AND", .absoluteX, .memory⟩,
  ⟨Opcode.ofByte 0x3F, "AND", .absoluteLongX, .memory⟩,
  ⟨Opcode.ofByte 0xC1, "CMP", .directPageXIndirect, .memory⟩,
  ⟨Opcode.ofByte 0xC3, "CMP", .stackRelative, .memory⟩,
  ⟨Opcode.ofByte 0xC5, "CMP", .directPage, .memory⟩,
  ⟨Opcode.ofByte 0xC7, "CMP", .directPageIndirectLong, .memory⟩,
  ⟨Opcode.ofByte 0xC9, "CMP", .immediateMemory, .memory⟩,
  ⟨Opcode.ofByte 0xCD, "CMP", .absolute, .memory⟩,
  ⟨Opcode.ofByte 0xCF, "CMP", .absoluteLong, .memory⟩,
  ⟨Opcode.ofByte 0xD1, "CMP", .directPageIndirectY, .memory⟩,
  ⟨Opcode.ofByte 0xD2, "CMP", .directPageIndirect, .memory⟩,
  ⟨Opcode.ofByte 0xD3, "CMP", .stackRelativeIndirectY, .memory⟩,
  ⟨Opcode.ofByte 0xD5, "CMP", .directPageX, .memory⟩,
  ⟨Opcode.ofByte 0xD7, "CMP", .directPageIndirectLongY, .memory⟩,
  ⟨Opcode.ofByte 0xD9, "CMP", .absoluteY, .memory⟩,
  ⟨Opcode.ofByte 0xDD, "CMP", .absoluteX, .memory⟩,
  ⟨Opcode.ofByte 0xDF, "CMP", .absoluteLongX, .memory⟩,
  ⟨Opcode.ofByte 0x01, "ORA", .directPageXIndirect, .memory⟩,
  ⟨Opcode.ofByte 0x03, "ORA", .stackRelative, .memory⟩,
  ⟨Opcode.ofByte 0x05, "ORA", .directPage, .memory⟩,
  ⟨Opcode.ofByte 0x07, "ORA", .directPageIndirectLong, .memory⟩,
  ⟨Opcode.ofByte 0x09, "ORA", .immediateMemory, .memory⟩,
  ⟨Opcode.ofByte 0x0D, "ORA", .absolute, .memory⟩,
  ⟨Opcode.ofByte 0x0F, "ORA", .absoluteLong, .memory⟩,
  ⟨Opcode.ofByte 0x11, "ORA", .directPageIndirectY, .memory⟩,
  ⟨Opcode.ofByte 0x12, "ORA", .directPageIndirect, .memory⟩,
  ⟨Opcode.ofByte 0x13, "ORA", .stackRelativeIndirectY, .memory⟩,
  ⟨Opcode.ofByte 0x15, "ORA", .directPageX, .memory⟩,
  ⟨Opcode.ofByte 0x17, "ORA", .directPageIndirectLongY, .memory⟩,
  ⟨Opcode.ofByte 0x19, "ORA", .absoluteY, .memory⟩,
  ⟨Opcode.ofByte 0x1D, "ORA", .absoluteX, .memory⟩,
  ⟨Opcode.ofByte 0x1F, "ORA", .absoluteLongX, .memory⟩,
  ⟨Opcode.ofByte 0x41, "EOR", .directPageXIndirect, .memory⟩,
  ⟨Opcode.ofByte 0x43, "EOR", .stackRelative, .memory⟩,
  ⟨Opcode.ofByte 0x45, "EOR", .directPage, .memory⟩,
  ⟨Opcode.ofByte 0x47, "EOR", .directPageIndirectLong, .memory⟩,
  ⟨Opcode.ofByte 0x49, "EOR", .immediateMemory, .memory⟩,
  ⟨Opcode.ofByte 0x4D, "EOR", .absolute, .memory⟩,
  ⟨Opcode.ofByte 0x4F, "EOR", .absoluteLong, .memory⟩,
  ⟨Opcode.ofByte 0x51, "EOR", .directPageIndirectY, .memory⟩,
  ⟨Opcode.ofByte 0x52, "EOR", .directPageIndirect, .memory⟩,
  ⟨Opcode.ofByte 0x53, "EOR", .stackRelativeIndirectY, .memory⟩,
  ⟨Opcode.ofByte 0x55, "EOR", .directPageX, .memory⟩,
  ⟨Opcode.ofByte 0x57, "EOR", .directPageIndirectLongY, .memory⟩,
  ⟨Opcode.ofByte 0x59, "EOR", .absoluteY, .memory⟩,
  ⟨Opcode.ofByte 0x5D, "EOR", .absoluteX, .memory⟩,
  ⟨Opcode.ofByte 0x5F, "EOR", .absoluteLongX, .memory⟩]

end W65816.Amendment
