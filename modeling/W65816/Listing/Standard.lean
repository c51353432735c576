import W65816.Listing

set_option autoImplicit false

/-!
# The standard listing

The reference listing of all 256 opcodes that a build uses when it is given no other: one
line per opcode, after two comment lines. Columns are the assembler syntax, an alias, the
byte count (a `*` marks one more byte at 16-bit width), the opcode and the addressing mode.
The listing is kept as the text of a file, every line ended by a line feed, and read as
any listing text is read.
-/

namespace W65816.Listing

/-- The text of the standard listing. -/
def standardText : String := String.join [
  "# 65816 opcode reference: syntax, alias, bytes, opcode, addressing mode\n",
  "# Bytes marked * grow by one when the accumulator or index register is 16 bits wide.\n",
  "ADC (dp,X)\t\t2\t61\tDP Indexed Indirect,X\n",
  "ADC sr,S\t\t2\t63\tStack Relative\n",
  "ADC dp\t\t2\t65\tDirect Page\n",
  "ADC [dp]\t\t2\t67\tDP Indirect Long\n",
  "ADC #const\t\t2*\t69\tImmediate\n",
  "ADC addr\tADC.W\t3\t6D\tAbsolute\n",
  "ADC long\tADC.L\t4\t6F\tAbsolute Long\n",
  "ADC (dp),Y\t\t2\t71\tDP Indirect Indexed, Y\n",
  "ADC (dp)\t\t2\t72\tDP Indirect\n",
  "ADC (sr,S),Y\t\t2\t73\tSR Indirect Indexed,Y\n",
  "ADC dp,X\t\t2\t75\tDP Indexed,X\n",
  "ADC [dp],Y\t\t2\t77\tDP Indirect Long Indexed, Y\n",
  "ADC addr,Y\t\t3\t79\tAbsolute Indexed,Y\n",
  "ADC addr,X\t\t3\t7D\tAbsolute Indexed,X\n",
  "ADC long,X\tADC.L\t4\t7F\tAbsolute Long Indexed,X\n",
  "AND (dp,X)\t\t2\t21\tDP Indexed Indirect,X\n",
  "AND sr,S\t\t2\t23\tStack Relative\n",
  "AND dp\t\t2\t25\tDirect Page\n",
  "AND [dp]\t\t2\t27\tDP Indirect Long\n",
  "AND #const\t\t2*\t29\tImmediate\n",
  "AND addr\tAND.W\t3\t2D\tAbsolute\n",
  "AND long\tAND.L\t4\t2F\tAbsolute Long\n",
  "AND (dp),Y\t\t2\t31\tDP Indirect Indexed, Y\n",
  "AND (dp)\t\t2\t32\tDP Indirect\n",
  "AND (sr,S),Y\t\t2\t33\tSR Indirect Indexed,Y\n",
  "AND dp,X\t\t2\t35\tDP Indexed,X\n",
  "AND [dp],Y\t\t2\t37\tDP Indirect Long Indexed, Y\n",
  "AND addr,Y\t\t3\t39\tAbsolute Indexed,Y\n",
  "AND addr,X\t\t3\t3D\tAbsolute Indexed,X\n",
  "AND long,X\tAND.L\t4\t3F\tAbsolute Long Indexed,X\n",
  "ASL dp\t\t2\t06\tDirect Page\n",
  "ASL A\t\t1\t0A\tAccumulator\n",
  "ASL addr\t\t3\t0E\tAbsolute\n",
  "ASL dp,X\t\t2\t16\tDP Indexed,X\n",
  "ASL addr,X\t\t3\t1E\tAbsolute Indexed,X\n",
  "BCC nearlabel\tBLT\t2\t90\tProgram Counter Relative\n",
  "BCS nearlabel\tBGE\t2\tB0\tProgram Counter Relative\n",
  "BEQ nearlabel\t\t2\tF0\tProgram Counter Relative\n",
  "BIT dp\t\t2\t24\tDirect Page\n",
  "BIT addr\t\t3\t2C\tAbsolute\n",
  "BIT dp,X\t\t2\t34\tDP Indexed,X\n",
  "BIT addr,X\t\t3\t3C\tAbsolute Indexed,X\n",
  "BIT #const\t\t2*\t89\tImmediate\n",
  "BMI nearlabel\t\t2\t30\tProgram Counter Relative\n",
  "BNE nearlabel\t\t2\tD0\tProgram Counter Relative\n",
  "BPL nearlabel\t\t2\t10\tProgram Counter Relative\n",
  "BRA nearlabel\t\t2\t80\tProgram Counter Relative\n",
  "BRK const\t\t2\t00\tStack/Interrupt\n",
  "BRL label\t\t3\t82\tProgram Counter Relative Long\n",
  "BVC nearlabel\t\t2\t50\tProgram Counter Relative\n",
  "BVS nearlabel\t\t2\t70\tProgram Counter Relative\n",
  "CLC\t\t1\t18\tImplied\n",
  "CLD\t\t1\tD8\tImplied\n",
  "CLI\t\t1\t58\tImplied\n",
  "CLV\t\t1\tB8\tImplied\n",
  "CMP (dp,X)\t\t2\tC1\tDP Indexed Indirect,X\n",
  "CMP sr,S\t\t2\tC3\tStack Relative\n",
  "CMP dp\t\t2\tC5\tDirect Page\n",
  "CMP [dp]\t\t2\tC7\tDP Indirect Long\n",
  "CMP #const\t\t2*\tC9\tImmediate\n",
  "CMP addr\tCMP.W\t3\tCD\tAbsolute\n",
  "CMP long\tCMP.L\t4\tCF\tAbsolute Long\n",
  "CMP (dp),Y\t\t2\tD1\tDP Indirect Indexed, Y\n",
  "CMP (dp)\t\t2\tD2\tDP Indirect\n",
  "CMP (sr,S),Y\t\t2\tD3\tSR Indirect Indexed,Y\n",
  "CMP dp,X\t\t2\tD5\tDP Indexed,X\n",
  "CMP [dp],Y\t\t2\tD7\tDP Indirect Long Indexed, Y\n",
  "CMP addr,Y\t\t3\tD9\tAbsolute Indexed,Y\n",
  "CMP addr,X\t\t3\tDD\tAbsolute Indexed,X\n",
  "CMP long,X\tCMP.L\t4\tDF\tAbsolute Long Indexed,X\n",
  "COP const\t\t2\t02\tStack/Interrupt\n",
  "CPX #const\t\t2*\tE0\tImmediate\n",
  "CPX dp\t\t2\tE4\tDirect Page\n",
  "CPX addr\t\t3\tEC\tAbsolute\n",
  "CPY #const\t\t2*\tC0\tImmediate\n",
  "CPY dp\t\t2\tC4\tDirect Page\n",
  "CPY addr\t\t3\tCC\tAbsolute\n",
  "DEC A\tDEA\t1\t3A\tAccumulator\n",
  "DEC dp\t\t2\tC6\tDirect Page\n",
  "DEC addr\t\t3\tCE\tAbsolute\n",
  "DEC dp,X\t\t2\tD6\tDP Indexed,X\n",
  "DEC addr,X\t\t3\tDE\tAbsolute Indexed,X\n",
  "DEX\t\t1\tCA\tImplied\n",
  "DEY\t\t1\t88\tImplied\n",
  "EOR (dp,X)\t\t2\t41\tDP Indexed Indirect,X\n",
  "EOR sr,S\t\t2\t43\tStack Relative\n",
  "EOR dp\t\t2\t45\tDirect Page\n",
  "EOR [dp]\t\t2\t47\tDP Indirect Long\n",
  "EOR #const\t\t2*\t49\tImmediate\n",
  "EOR addr\tEOR.W\t3\t4D\tAbsolute\n",
  "EOR long\tEOR.L\t4\t4F\tAbsolute Long\n",
  "EOR (dp),Y\t\t2\t51\tDP Indirect Indexed, Y\n",
  "EOR (dp)\t\t2\t52\tDP Indirect\n",
  "EOR (sr,S),Y\t\t2\t53\tSR Indirect Indexed,Y\n",
  "EOR dp,X\t\t2\t55\tDP Indexed,X\n",
  "EOR [dp],Y\t\t2\t57\tDP Indirect Long Indexed, Y\n",
  "EOR addr,Y\t\t3\t59\tAbsolute Indexed,Y\n",
  "EOR addr,X\t\t3\t5D\tAbsolute Indexed,X\n",
  "EOR long,X\tEOR.L\t4\t5F\tAbsolute Long Indexed,X\n",
  "INC A\tINA\t1\t1A\tAccumulator\n",
  "INC dp\t\t2\tE6\tDirect Page\n",
  "INC addr\t\t3\tEE\tAbsolute\n",
  "INC dp,X\t\t2\tF6\tDP Indexed,X\n",
  "INC addr,X\t\t3\tFE\tAbsolute Indexed,X\n",
  "INX\t\t1\tE8\tImplied\n",
  "INY\t\t1\tC8\tImplied\n",
  "JML long\tJMP.L\t4\t5C\tAbsolute Long\n",
  "JML [addr]\t\t3\tDC\tAbsolute Indirect Long\n",
  "JMP addr\t\t3\t4C\tAbsolute\n",
  "JMP (addr)\t\t3\t6C\tAbsolute Indirect\n",
  "JMP (addr,X)\t\t3\t7C\tAbsolute Indexed Indirect\n",
  "JSL long\tJSR.L\t4\t22\tAbsolute Long\n",
  "JSR addr\t\t3\t20\tAbsolute\n",
  "JSR (addr,X)\t\t3\tFC\tAbsolute Indexed Indirect\n",
  "LDA (dp,X)\t\t2\tA1\tDP Indexed Indirect,X\n",
  "LDA sr,S\t\t2\tA3\tStack Relative\n",
  "LDA dp\t\t2\tA5\tDirect Page\n",
  "LDA [dp]\t\t2\tA7\tDP Indirect Long\n",
  "LDA #const\t\t2*\tA9\tImmediate\n",
  "LDA addr\tLDA.W\t3\tAD\tAbsolute\n",
  "LDA long\tLDA.L\t4\tAF\tAbsolute Long\n",
  "LDA (dp),Y\t\t2\tB1\tDP Indirect Indexed, Y\n",
  "LDA (dp)\t\t2\tB2\tDP Indirect\n",
  "LDA (sr,S),Y\t\t2\tB3\tSR Indirect Indexed,Y\n",
  "LDA dp,X\t\t2\tB5\tDP Indexed,X\n",
  "LDA [dp],Y\t\t2\tB7\tDP Indirect Long Indexed, Y\n",
  "LDA addr,Y\t\t3\tB9\tAbsolute Indexed,Y\n",
  "LDA addr,X\t\t3\tBD\tAbsolute Indexed,X\n",
  "LDA long,X\tLDA.L\t4\tBF\tAbsolute Long Indexed,X\n",
  "LDX #const\t\t2*\tA2\tImmediate\n",
  "LDX dp\t\t2\tA6\tDirect Page\n",
  "LDX addr\t\t3\tAE\tAbsolute\n",
  "LDX dp,Y\t\t2\tB6\tDP Indexed,Y\n",
  "LDX addr,Y\t\t3\tBE\tAbsolute Indexed,Y\n",
  "LDY #const\t\t2*\tA0\tImmediate\n",
  "LDY dp\t\t2\tA4\tDirect Page\n",
  "LDY addr\t\t3\tAC\tAbsolute\n",
  "LDY dp,X\t\t2\tB4\tDP Indexed,X\n",
  "LDY addr,X\t\t3\tBC\tAbsolute Indexed,X\n",
  "LSR dp\t\t2\t46\tDirect Page\n",
  "LSR A\t\t1\t4A\tAccumulator\n",
  "LSR addr\t\t3\t4E\tAbsolute\n",
  "LSR dp,X\t\t2\t56\tDP Indexed,X\n",
  "LSR addr,X\t\t3\t5E\tAbsolute Indexed,X\n",
  "MVN srcbk,destbk\t\t3\t54\tBlock Move\n",
  "MVP srcbk,destbk\t\t3\t44\tBlock Move\n",
  "NOP\t\t1\tEA\tImplied\n",
  "ORA (dp,X)\t\t2\t01\tDP Indexed Indirect,X\n",
  "ORA sr,S\t\t2\t03\tStack Relative\n",
  "ORA dp\t\t2\t05\tDirect Page\n",
  "ORA [dp]\t\t2\t07\tDP Indirect Long\n",
  "ORA #const\t\t2*\t09\tImmediate\n",
  "ORA addr\tORA.W\t3\t0D\tAbsolute\n",
  "ORA long\tORA.L\t4\t0F\tAbsolute Long\n",
  "ORA (dp),Y\t\t2\t11\tDP Indirect Indexed, Y\n",
  "ORA (dp)\t\t2\t12\tDP Indirect\n",
  "ORA (sr,S),Y\t\t2\t13\tSR Indirect Indexed,Y\n",
  "ORA dp,X\t\t2\t15\tDP Indexed,X\n",
  "ORA [dp],Y\t\t2\t17\tDP Indirect Long Indexed, Y\n",
  "ORA addr,Y\t\t3\t19\tAbsolute Indexed,Y\n",
  "ORA addr,X\t\t3\t1D\tAbsolute Indexed,X\n",
  "ORA long,X\tORA.L\t4\t1F\tAbsolute Long Indexed,X\n",
  "PEA addr\t\t3\tF4\tStack (Absolute)\n",
  "PEI (dp)\t\t2\tD4\tStack (DP Indirect)\n",
  "PER label\t\t3\t62\tStack (PC Relative Long)\n",
  "PHA\t\t1\t48\tStack (Push)\n",
  "PHB\t\t1\t8B\tStack (Push)\n",
  "PHD\t\t1\t0B\tStack (Push)\n",
  "PHK\t\t1\t4B\tStack (Push)\n",
  "PHP\t\t1\t08\tStack (Push)\n",
  "PHX\t\t1\tDA\tStack (Push)\n",
  "PHY\t\t1\t5A\tStack (Push)\n",
  "PLA\t\t1\t68\tStack (Pull)\n",
  "PLB\t\t1\tAB\tStack (Pull)\n",
  "PLD\t\t1\t2B\tStack (Pull)\n",
  "PLP\t\t1\t28\tStack (Pull)\n",
  "PLX\t\t1\tFA\tStack (Pull)\n",
  "PLY\t\t1\t7A\tStack (Pull)\n",
  "REP #const\t\t2\tC2\tImmediate\n",
  "ROL dp\t\t2\t26\tDirect Page\n",
  "ROL A\t\t1\t2A\tAccumulator\n",
  "ROL addr\t\t3\t2E\tAbsolute\n",
  "ROL dp,X\t\t2\t36\tDP Indexed,X\n",
  "ROL addr,X\t\t3\t3E\tAbsolute Indexed,X\n",
  "ROR dp\t\t2\t66\tDirect Page\n",
  "ROR A\t\t1\t6A\tAccumulator\n",
  "ROR addr\t\t3\t6E\tAbsolute\n",
  "ROR dp,X\t\t2\t76\tDP Indexed,X\n",
  "ROR addr,X\t\t3\t7E\tAbsolute Indexed,X\n",
  "RTI\t\t1\t40\tStack (RTI)\n",
  "RTL\t\t1\t6B\tStack (RTL)\n",
  "RTS\t\t1\t60\tStack (RTS)\n",
  "SBC (dp,X)\t\t2\tE1\tDP Indexed Indirect,X\n",
  "SBC sr,S\t\t2\tE3\tStack Relative\n",
  "SBC dp\t\t2\tE5\tDirect Page\n",
  "SBC [dp]\t\t2\tE7\tDP Indirect Long\n",
  "SBC #const\t\t2*\tE9\tImmediate\n",
  "SBC addr\tSBC.W\t3\tED\tAbsolute\n",
  "SBC long\tSBC.L\t4\tEF\tAbsolute Long\n",
  "SBC (dp),Y\t\t2\tF1\tDP Indirect Indexed, Y\n",
  "SBC (dp)\t\t2\tF2\tDP Indirect\n",
  "SBC (sr,S),Y\t\t2\tF3\tSR Indirect Indexed,Y\n",
  "SBC dp,X\t\t2\tF5\tDP Indexed,X\n",
  "SBC [dp],Y\t\t2\tF7\tDP Indirect Long Indexed, Y\n",
  "SBC addr,Y\t\t3\tF9\tAbsolute Indexed,Y\n",
  "SBC addr,X\t\t3\tFD\tAbsolute Indexed,X\n",
  "SBC long,X\tSBC.L\t4\tFF\tAbsolute Long Indexed,X\n",
  "SEC\t\t1\t38\tImplied\n",
  "SED\t\t1\tF8\tImplied\n",
  "SEI\t\t1\t78\tImplied\n",
  "SEP #const\t\t2\tE2\tImmediate\n",
  "STA (dp,X)\t\t2\t81\tDP Indexed Indirect,X\n",
  "STA sr,S\t\t2\t83\tStack Relative\n",
  "STA dp\t\t2\t85\tDirect Page\n",
  "STA [dp]\t\t2\t87\tDP Indirect Long\n",
  "STA addr\tSTA.W\t3\t8D\tAbsolute\n",
  "STA long\tSTA.L\t4\t8F\tAbsolute Long\n",
  "STA (dp),Y\t\t2\t91\tDP Indirect Indexed, Y\n",
  "STA (dp)\t\t2\t92\tDP Indirect\n",
  "STA (sr,S),Y\t\t2\t93\tSR Indirect Indexed,Y\n",
  "STA dp,X\t\t2\t95\tDP Indexed,X\n",
  "STA [dp],Y\t\t2\t97\tDP Indirect Long Indexed, Y\n",
  "STA addr,Y\t\t3\t99\tAbsolute Indexed,Y\n",
  "STA addr,X\t\t3\t9D\tAbsolute Indexed,X\n",
  "STA long,X\tSTA.L\t4\t9F\tAbsolute Long Indexed,X\n",
  "STP\t\t1\tDB\tImplied\n",
  "STX dp\t\t2\t86\tDirect Page\n",
  "STX addr\t\t3\t8E\tAbsolute\n",
  "STX dp,Y\t\t2\t96\tDP Indexed,Y\n",
  "STY dp\t\t2\t84\tDirect Page\n",
  "STY addr\t\t3\t8C\tAbsolute\n",
  "STY dp,X\t\t2\t94\tDP Indexed,X\n",
  "STZ dp\t\t2\t64\tDirect Page\n",
  "STZ dp,X\t\t2\t74\tDP Indexed,X\n",
  "STZ addr\t\t3\t9C\tAbsolute\n",
  "STZ addr,X\t\t3\t9E\tAbsolute Indexed,X\n",
  "TAX\t\t1\tAA\tImplied\n",
  "TAY\t\t1\tA8\tImplied\n",
  "TCD\tTAD\t1\t5B\tImplied\n",
  "TCS\tTAS\t1\t1B\tImplied\n",
  "TDC\tTDA\t1\t7B\tImplied\n",
  "TRB dp\t\t2\t14\tDirect Page\n",
  "TRB addr\t\t3\t1C\tAbsolute\n",
  "TSB dp\t\t2\t04\tDirect Page\n",
  "TSB addr\t\t3\t0C\tAbsolute\n",
  "TSC\tTSA\t1\t3B\tImplied\n",
  "TSX\t\t1\tBA\tImplied\n",
  "TXA\t\t1\t8A\tImplied\n",
  "TXS\t\t1\t9A\tImplied\n",
  "TXY\t\t1\t9B\tImplied\n",
  "TYA\t\t1\t98\tImplied\n",
  "TYX\t\t1\tBB\tImplied\n",
  "WAI\t\t1\tCB\tImplied\n",
  "WDM\t\t2\t42\t\n",
  "XBA\tSWA\t1\tEB\tImplied\n",
  "XCE\t\t1\tFB\tImplied\n"]

/-- The lines of the standard listing. -/
def standardLines : List String := linesOf standardText

end W65816.Listing
