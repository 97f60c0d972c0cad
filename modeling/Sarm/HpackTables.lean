/-!
The constant tables of the HPACK decoder: the static header table, and the
Huffman code sorted by code length, with the index at which each length starts.
-/
namespace Sarm.Hpack

/-- The bytes of an ASCII string. -/
def ascii (s : String) : List UInt8 := s.toList.map fun c => UInt8.ofNat c.toNat

/-- `h2_hpack_static_table`: names and values, first entry at index 0. -/
def h2HpackStaticTable : List (String × String) := [
  (":authority",""), (":method","GET"), (":method","POST"), (":path","/"), (":path","/index.html"),
  (":scheme","http"), (":scheme","https"), (":status","200"), (":status","204"), (":status","206"),
  (":status","304"), (":status","400"), (":status","404"), (":status","500"), ("accept-charset",""),
  ("accept-encoding","gzip, deflate"), ("accept-language",""), ("accept-ranges",""), ("accept",""),
  ("access-control-allow-origin",""), ("age",""), ("allow",""), ("authorization",""), ("cache-control",""),
  ("content-disposition",""), ("content-encoding",""), ("content-language",""), ("content-length",""),
  ("content-location",""), ("content-range",""), ("content-type",""), ("cookie",""), ("date",""), ("etag",""),
  ("expect",""), ("expires",""), ("from",""), ("host",""), ("if-match",""), ("if-modified-since",""),
  ("if-none-match",""), ("if-range",""), ("if-unmodified-since",""), ("last-modified",""), ("link",""),
  ("location",""), ("max-forwards",""), ("proxy-authenticate",""), ("proxy-authorization",""), ("range",""),
  ("referer",""), ("refresh",""), ("retry-after",""), ("server",""), ("set-cookie",""),
  ("strict-transport-security",""), ("transfer-encoding",""), ("user-agent",""), ("vary",""), ("via",""),
  ("www-authenticate","")]

/-- `h2_huffman_table`: codes, aligned to the low bit, with their symbols. -/
def h2HuffmanTable : List (Nat × Nat) := [
  (0x0,48), (0x1,49), (0x2,50), (0x3,97), (0x4,99), (0x5,101), (0x6,105), (0x7,111), (0x8,115), (0x9,116),
  (0x14,32), (0x15,37), (0x16,45), (0x17,46), (0x18,47), (0x19,51), (0x1a,52), (0x1b,53), (0x1c,54), (0x1d,55),
  (0x1e,56), (0x1f,57), (0x20,61), (0x21,65), (0x22,95), (0x23,98), (0x24,100), (0x25,102), (0x26,103),
  (0x27,104), (0x28,108), (0x29,109), (0x2a,110), (0x2b,112), (0x2c,114), (0x2d,117), (0x5c,58), (0x5d,66),
  (0x5e,67), (0x5f,68), (0x60,69), (0x61,70), (0x62,71), (0x63,72), (0x64,73), (0x65,74), (0x66,75), (0x67,76),
  (0x68,77), (0x69,78), (0x6a,79), (0x6b,80), (0x6c,81), (0x6d,82), (0x6e,83), (0x6f,84), (0x70,85), (0x71,86),
  (0x72,87), (0x73,89), (0x74,106), (0x75,107), (0x76,113), (0x77,118), (0x78,119), (0x79,120), (0x7a,121),
  (0x7b,122), (0xf8,38), (0xf9,42), (0xfa,44), (0xfb,59), (0xfc,88), (0xfd,90), (0x3f8,33), (0x3f9,34),
  (0x3fa,40), (0x3fb,41), (0x3fc,63), (0x7fa,39), (0x7fb,43), (0x7fc,124), (0xffa,35), (0xffb,62), (0x1ff8,0),
  (0x1ff9,36), (0x1ffa,64), (0x1ffb,91), (0x1ffc,93), (0x1ffd,126), (0x3ffc,94), (0x3ffd,125), (0x7ffc,60),
  (0x7ffd,96), (0x7ffe,123), (0x7fff0,92), (0x7fff1,195), (0x7fff2,208), (0xfffe6,128), (0xfffe7,130),
  (0xfffe8,131), (0xfffe9,162), (0xfffea,184), (0xfffeb,194), (0xfffec,224), (0xfffed,226), (0x1fffdc,153),
  (0x1fffdd,161), (0x1fffde,167), (0x1fffdf,172), (0x1fffe0,176), (0x1fffe1,177), (0x1fffe2,179),
  (0x1fffe3,209), (0x1fffe4,216), (0x1fffe5,217), (0x1fffe6,227), (0x1fffe7,229), (0x1fffe8,230),
  (0x3fffd2,129), (0x3fffd3,132), (0x3fffd4,133), (0x3fffd5,134), (0x3fffd6,136), (0x3fffd7,146),
  (0x3fffd8,154), (0x3fffd9,156), (0x3fffda,160), (0x3fffdb,163), (0x3fffdc,164), (0x3fffdd,169),
  (0x3fffde,170), (0x3fffdf,173), (0x3fffe0,178), (0x3fffe1,181), (0x3fffe2,185), (0x3fffe3,186),
  (0x3fffe4,187), (0x3fffe5,189), (0x3fffe6,190), (0x3fffe7,196), (0x3fffe8,198), (0x3fffe9,228),
  (0x3fffea,232), (0x3fffeb,233), (0x7fffd8,1), (0x7fffd9,135), (0x7fffda,137), (0x7fffdb,138), (0x7fffdc,139),
  (0x7fffdd,140), (0x7fffde,141), (0x7fffdf,143), (0x7fffe0,147), (0x7fffe1,149), (0x7fffe2,150),
  (0x7fffe3,151), (0x7fffe4,152), (0x7fffe5,155), (0x7fffe6,157), (0x7fffe7,158), (0x7fffe8,165),
  (0x7fffe9,166), (0x7fffea,168), (0x7fffeb,174), (0x7fffec,175), (0x7fffed,180), (0x7fffee,182),
  (0x7fffef,183), (0x7ffff0,188), (0x7ffff1,191), (0x7ffff2,197), (0x7ffff3,231), (0x7ffff4,239), (0xffffea,9),
  (0xffffeb,142), (0xffffec,144), (0xffffed,145), (0xffffee,148), (0xffffef,159), (0xfffff0,171),
  (0xfffff1,206), (0xfffff2,215), (0xfffff3,225), (0xfffff4,236), (0xfffff5,237), (0x1ffffec,199),
  (0x1ffffed,207), (0x1ffffee,234), (0x1ffffef,235), (0x3ffffe0,192), (0x3ffffe1,193), (0x3ffffe2,200),
  (0x3ffffe3,201), (0x3ffffe4,202), (0x3ffffe5,205), (0x3ffffe6,210), (0x3ffffe7,213), (0x3ffffe8,218),
  (0x3ffffe9,219), (0x3ffffea,238), (0x3ffffeb,240), (0x3ffffec,242), (0x3ffffed,243), (0x3ffffee,255),
  (0x7ffffde,203), (0x7ffffdf,204), (0x7ffffe0,211), (0x7ffffe1,212), (0x7ffffe2,214), (0x7ffffe3,221),
  (0x7ffffe4,222), (0x7ffffe5,223), (0x7ffffe6,241), (0x7ffffe7,244), (0x7ffffe8,245), (0x7ffffe9,246),
  (0x7ffffea,247), (0x7ffffeb,248), (0x7ffffec,250), (0x7ffffed,251), (0x7ffffee,252), (0x7ffffef,253),
  (0x7fffff0,254), (0xfffffe2,2), (0xfffffe3,3), (0xfffffe4,4), (0xfffffe5,5), (0xfffffe6,6), (0xfffffe7,7),
  (0xfffffe8,8), (0xfffffe9,11), (0xfffffea,12), (0xfffffeb,14), (0xfffffec,15), (0xfffffed,16),
  (0xfffffee,17), (0xfffffef,18), (0xffffff0,19), (0xffffff1,20), (0xffffff2,21), (0xffffff3,23),
  (0xffffff4,24), (0xffffff5,25), (0xffffff6,26), (0xffffff7,27), (0xffffff8,28), (0xffffff9,29),
  (0xffffffa,30), (0xffffffb,31), (0xffffffc,127), (0xffffffd,220), (0xffffffe,249), (0x3ffffffc,10),
  (0x3ffffffd,13), (0x3ffffffe,22), (0x3fffffff,256)]

/-- `h2_huffman_len_start`: the entries of length `n` run from element `n` to
    element `n+1`. -/
def h2HuffmanLenStart : List Nat := [
  0, 0, 0, 0, 0, 0, 10, 36, 68, 74, 74, 79, 82, 84, 90, 92, 95, 95, 95, 95, 98, 106, 119, 145, 174, 186, 190,
  205, 224, 253, 253, 257]

end Sarm.Hpack
