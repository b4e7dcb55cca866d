import Hostlink.Text.RunTable

/-!
# How characters of domain names are treated

The table of the international mapping of domain names, for the characters from U+0080 on.  Each run
has a letter:

* `v`: the characters are kept;
* `x`: no name can have them;
* `i`: they are left out;
* `s`: each is replaced by one character, the first by the one given, the next by the next;
* `a`: by turns one is replaced by the next one, which is kept;
* `m`: each is replaced by the characters given.
-/

namespace Hostlink.Domain

/-- The runs of the mapping. -/
def mappingLines : List String := [
  "x20 s:20 v7 m:20.308 v s:61 v2 i v m:20.304 v2 s2:32 m:20.301 s:3bc v2 m:20.327 s:31 s:6f v",
  "m:31.2044.34 m:31.2044.32 m:33.2044.34 v s17:e0 v s7:f8 v21 a30 m:69.307 v m:69.6a m:69.6a",
  "a4 v a6 m:6c.b7 m:6c.b7 a8 m:2bc.6e a2e s:ff a6 s:73 v s:253 a4 s:254 s:188 v s2:256 s:18c",
  "v2 s:1dd s:259 s:25b s:192 v s:260 s:263 v s:269 s:268 s:199 v3 s:26f s:272 v s:275 a6",
  "s:280 s:1a8 v s:283 v2 s:1ad v s:288 s:1b0 v s2:28a a4 s:292 s:1b9 v3 s:1bd v7 m:64.17e",
  "m:64.17e m:64.17e m:6c.6a m:6c.6a m:6c.6a m:6e.6a m:6e.6a m:6e.6a a10 v a12 v m:64.7a",
  "m:64.7a m:64.7a s:1f5 v s:195 s:1bf a28 s:19e v a12 v6 s:2c65 s:23c v s:19a s:2c66 v2 s:242",
  "v s:180 s:289 s:28c aa v60 s:68 s:266 s:6a s:72 s:279 s:27b s:281 s:77 s:79 v1f m:20.306",
  "m:20.307 m:20.30a m:20.328 m:20.303 m:20.30b v2 s:263 s:6c s:73 s:78 s:295 v5b s2:300 v",
  "s:313 m:308.301 s:3b9 v9 i v20 a4 s:2b9 v s:377 v x2 m:20.3b9 v3 s:3b s:3f3 x4 m:20.301",
  "m:20.308.301 s:3ac s:b7 s3:3ad x s:3cc x s2:3cd v s11:3b1 x s9:3c3 v23 s:3d7 s:3b2 s:3b8",
  "s:3c5 s:3cd s:3cb s:3c6 s:3c0 v a18 s:3ba s:3c1 s:3c3 v s:3b8 s:3b5 v s:3f8 v s:3c3 s:3fb",
  "v2 s3:37b s10:450 s20:430 v30 a22 v8 a36 s:4cf ae v a60 x s26:561 x2 v2e m:565.582 v3 x2 v3",
  "x v37 x8 v1b x4 v6 x11 v16 x v58 m:627.674 m:648.674 m:6c7.674 m:64a.674 v64 x v30 x2 v3b",
  "x2 v65 xe v3b x2 v31 x2 vf x v1c x2 v x vb x5 v20 x7 v4b x v75 m:915.93c m:916.93c",
  "m:917.93c m:91c.93c m:921.93c m:922.93c m:92b.93c m:92f.93c v24 x v8 x2 v2 x2 v16 x v7 x v",
  "x3 v4 x2 v9 x2 v2 x2 v4 x8 v x4 m:9a1.9bc m:9a2.9bc x m:9af.9bc v4 x2 v19 x2 v3 x v6 x4 v2",
  "x2 v16 x v7 x v m:a32.a3c x v m:a38.a3c x v2 x2 v x v5 x4 v2 x2 v3 x3 v x7 m:a16.a3c",
  "m:a17.a3c m:a1c.a3c v x m:a2b.a3c x7 v11 xa v3 x v9 x v3 x v16 x v7 x v2 x v5 x2 va x v3 x",
  "v3 x2 v xf v4 x2 vc x7 v7 x v3 x v8 x2 v2 x2 v16 x v7 x v2 x v5 x2 v9 x2 v2 x2 v3 x7 v3 x4",
  "m:b21.b3c m:b22.b3c x v5 x2 v12 xa v2 x v6 x3 v3 x v4 x3 v2 x v x v2 x3 v2 x3 v3 x3 vc x4",
  "v5 x3 v3 x v4 x2 v x6 v xe v15 x5 vd x v3 x v17 x v10 x2 v9 x v3 x v4 x7 v2 x v3 x v2 x2 v4",
  "x2 va x7 v16 x v3 x v17 x va x v5 x2 v9 x v3 x v4 x7 v2 x5 v3 x v4 x2 va x v3 xc vd x v3 x",
  "v33 x v3 x v6 x4 v10 x2 v1a x v3 x v12 x3 v18 x v9 x v x2 v7 x3 v x4 v6 x v x v8 x6 va x2",
  "v3 xc v32 m:e4d.e32 v7 x4 v1d x25 v2 x v x v5 x v18 x v x vc m:ecd.eb2 va x2 v5 x v x v7 x",
  "va x2 m:eab.e99 m:eab.ea1 v2 x20 vc s:f0b v36 m:f42.fb7 v4 x v4 m:f4c.fb7 v4 m:f51.fb7 v4",
  "m:f56.fb7 v4 m:f5b.fb7 vc m:f40.fb5 v3 x4 v2 m:f71.f72 v m:f71.f74 m:fb2.f80 m:fb2.f71.f80",
  "m:fb3.f80 m:fb3.f71.f80 v7 m:f71.f80 v11 m:f92.fb7 v4 x v4 m:f9c.fb7 v4 m:fa1.fb7 v4",
  "m:fa6.fb7 v4 m:fab.fb7 vc m:f90.fb5 v3 x vf x vd x25 va0 s26:2d00 x s:2d27 x5 s:2d2d x2 v2c",
  "s:10dc v62 i2 ve8 x v4 x2 v7 x v x v4 x2 v29 x v4 x2 v21 x v4 x2 v7 x v x v4 x2 vf x v39 x",
  "v4 x2 v43 x2 v20 x3 v1a x6 v56 x2 s6:13f0 x2 v280 x v1c x3 v59 x7 v16 x9 v18 x9 v14 xc vd x",
  "v3 x v2 xc v34 i2 v28 x2 va x6 va x6 vb i5 va x6 v59 x7 v2b x5 v46 xa v1f x vc x4 vc x4 v",
  "x3 v2a x2 v5 xb v2c x4 v1a x6 vb x3 v3e x2 v41 x v1d x2 vb x6 va x6 ve x2 v2e x2 vc x14 v4d",
  "x va6 x8 v3c x3 vf x3 v33 s:432 s:434 s:43e s2:441 s:442 s:44a s:463 s:a64b s:1c8a v x5",
  "s2b:10d0 x2 s3:10fd v8 x8 v2b x5 v2c s:61 s:e6 s:62 v s2:64 s:1dd s8:67 v s:6f s:223 s:70",
  "s:72 s2:74 s:77 s:61 s2:250 s:1d02 s:62 s2:64 s:259 s2:25b s:67 v s:6b s:6d s:14b s:6f",
  "s:254 s2:1d16 s:70 s2:74 s:1d1d s:26f s:76 s:1d25 s3:3b2 s2:3c6 s:69 s:72 s2:75 s2:3b2",
  "s:3c1 s2:3c6 vd s:43d v22 s:252 s:63 s:255 s:f0 s:25c s:66 s:25f s:261 s:265 s3:268 s:1d7b",
  "s:29d s:26d s:1d85 s:29f s:271 s:270 s4:272 s:278 s2:282 s:1ab s2:289 s:1d1c s2:28b s:7a",
  "s3:290 s:3b8 v40 a96 v4 m:61.2be s:1e61 v2 s:df v a60 v8 s8:1f00 v6 x2 s6:1f10 x2 v8",
  "s8:1f20 v8 s8:1f30 v6 x2 s6:1f40 x2 v8 x s:1f51 x s:1f53 x s:1f55 x s:1f57 v8 s8:1f60 v",
  "s:3ac v s:3ad v s:3ae v s:3af v s:3cc v s:3cd v s:3ce x2 m:1f00.3b9 m:1f01.3b9 m:1f02.3b9",
  "m:1f03.3b9 m:1f04.3b9 m:1f05.3b9 m:1f06.3b9 m:1f07.3b9 m:1f00.3b9 m:1f01.3b9 m:1f02.3b9",
  "m:1f03.3b9 m:1f04.3b9 m:1f05.3b9 m:1f06.3b9 m:1f07.3b9 m:1f20.3b9 m:1f21.3b9 m:1f22.3b9",
  "m:1f23.3b9 m:1f24.3b9 m:1f25.3b9 m:1f26.3b9 m:1f27.3b9 m:1f20.3b9 m:1f21.3b9 m:1f22.3b9",
  "m:1f23.3b9 m:1f24.3b9 m:1f25.3b9 m:1f26.3b9 m:1f27.3b9 m:1f60.3b9 m:1f61.3b9 m:1f62.3b9",
  "m:1f63.3b9 m:1f64.3b9 m:1f65.3b9 m:1f66.3b9 m:1f67.3b9 m:1f60.3b9 m:1f61.3b9 m:1f62.3b9",
  "m:1f63.3b9 m:1f64.3b9 m:1f65.3b9 m:1f66.3b9 m:1f67.3b9 v2 m:1f70.3b9 m:3b1.3b9 m:3ac.3b9 x",
  "v m:1fb6.3b9 s2:1fb0 s:1f70 s:3ac m:3b1.3b9 m:20.313 s:3b9 m:20.313 m:20.342 m:20.308.342",
  "m:1f74.3b9 m:3b7.3b9 m:3ae.3b9 x v m:1fc6.3b9 s:1f72 s:3ad s:1f74 s:3ae m:3b7.3b9",
  "m:20.313.300 m:20.313.301 m:20.313.342 v3 s:390 x2 v2 s2:1fd0 s:1f76 s:3af x m:20.314.300",
  "m:20.314.301 m:20.314.342 v3 s:3b0 v4 s2:1fe0 s:1f7a s:3cd s:1fe5 m:20.308.300 m:20.308.301",
  "s:60 x2 m:1f7c.3b9 m:3c9.3b9 m:3ce.3b9 x v m:1ff6.3b9 s:1f78 s:3cc s:1f7c s:3ce m:3c9.3b9",
  "m:20.301 m:20.314 x s:20 s:20 s:20 s:20 s:20 s:20 s:20 s:20 s:20 s:20 s:20 i v2 x2 v s:2010",
  "v5 m:20.333 vc x3 v x7 s:20 v3 m:2032.2032 m:2032.2032.2032 v m:2035.2035 m:2035.2035.2035",
  "v4 m:21.21 v m:20.305 v8 m:3f.3f m:3f.21 m:21.3f vd m:2032.2032.2032.2032 v7 s:20 i5 x5 i6",
  "s:30 s:69 x2 s6:34 s:2b s:2212 s:3d s2:28 s:6e sa:30 s:2b s:2212 s:3d s2:28 x s:61 s:65",
  "s:6f s:78 s:259 s:68 s4:6b s:70 s2:73 x3 v8 m:72.73 v19 xe v21 xf m:61.2f.63 m:61.2f.73",
  "s:63 m:b0.63 v m:63.2f.6f m:63.2f.75 s:25b v m:b0.66 s2:67 s:68 s:68 s:68 s:127 s:69 s:69",
  "s:6c s:6c v s:6e m:6e.6f v2 s3:70 s:72 s:72 v2 m:73.6d m:74.65.6c m:74.6d v s:7a v s:3c9 v",
  "s:7a v s:6b s:e5 s2:62 v s:65 s2:65 s:214e s:6d s:6f s4:5d0 s:69 v m:66.61.78 s:3c0 s:3b3",
  "s:3b3 s:3c0 s:2211 v4 s:64 s2:64 s2:69 v6 m:31.2044.37 m:31.2044.39 m:31.2044.31.30",
  "m:31.2044.33 m:32.2044.33 m:31.2044.35 m:32.2044.35 m:33.2044.35 m:34.2044.35 m:31.2044.36",
  "m:35.2044.36 m:31.2044.38 m:33.2044.38 m:35.2044.38 m:37.2044.38 m:31.2044 s:69 m:69.69",
  "m:69.69.69 m:69.76 s:76 m:76.69 m:76.69.69 m:76.69.69.69 m:69.78 s:78 m:78.69 m:78.69.69",
  "s:6c s2:63 s:6d s:69 m:69.69 m:69.69.69 m:69.76 s:76 m:76.69 m:76.69.69 m:76.69.69.69",
  "m:69.78 s:78 m:78.69 m:78.69.69 s:6c s2:63 s:6d v3 s:2184 v5 m:30.2044.33 v2 x4 v9c",
  "m:222b.222b m:222b.222b.222b v m:222e.222e m:222e.222e.222e vf8 s2:3008 vff x16 vb x15",
  "s9:31 m:31.30 m:31.31 m:31.32 m:31.33 m:31.34 m:31.35 m:31.36 m:31.37 m:31.38 m:31.39",
  "m:32.30 m:28.31.29 m:28.32.29 m:28.33.29 m:28.34.29 m:28.35.29 m:28.36.29 m:28.37.29",
  "m:28.38.29 m:28.39.29 m:28.31.30.29 m:28.31.31.29 m:28.31.32.29 m:28.31.33.29 m:28.31.34.29",
  "m:28.31.35.29 m:28.31.36.29 m:28.31.37.29 m:28.31.38.29 m:28.31.39.29 m:28.32.30.29 x14",
  "m:28.61.29 m:28.62.29 m:28.63.29 m:28.64.29 m:28.65.29 m:28.66.29 m:28.67.29 m:28.68.29",
  "m:28.69.29 m:28.6a.29 m:28.6b.29 m:28.6c.29 m:28.6d.29 m:28.6e.29 m:28.6f.29 m:28.70.29",
  "m:28.71.29 m:28.72.29 m:28.73.29 m:28.74.29 m:28.75.29 m:28.76.29 m:28.77.29 m:28.78.29",
  "m:28.79.29 m:28.7a.29 s1a:61 s1a:61 s:30 v521 m:222b.222b.222b.222b v67 m:3a.3a.3d m:3d.3d",
  "m:3d.3d.3d v65 m:2add.338 v97 x2 v8a s30:2c30 v30 s:2c61 v s:26b s:1d7d s:27d v2 a6 s:251",
  "s:271 s:250 s:252 v s:2c73 v2 s:2c76 v6 s:6a s:76 s2:23f a64 v7 a4 v3 s:2cf3 v x5 v2d x v",
  "x5 v x2 v38 x7 s:2d61 v xe v18 x9 v7 x v7 x v7 x v7 x v7 x v7 x v7 x v7 x v7e x22 v1a x v4",
  "s:6bcd v53 s:9f9f xc s:4e00 s:4e28 s:4e36 s:4e3f s:4e59 s:4e85 s:4e8c s:4ea0 s:4eba s:513f",
  "s:5165 s:516b s:5182 s:5196 s:51ab s:51e0 s:51f5 s:5200 s:529b s:52f9 s:5315 s:531a s:5338",
  "s:5341 s:535c s:5369 s:5382 s:53b6 s:53c8 s:53e3 s:56d7 s:571f s:58eb s:5902 s:590a s:5915",
  "s:5927 s:5973 s:5b50 s:5b80 s:5bf8 s:5c0f s:5c22 s:5c38 s:5c6e s:5c71 s:5ddb s:5de5 s:5df1",
  "s:5dfe s:5e72 s:5e7a s:5e7f s:5ef4 s:5efe s:5f0b s:5f13 s:5f50 s:5f61 s:5f73 s:5fc3 s:6208",
  "s:6236 s:624b s:652f s:6534 s:6587 s:6597 s:65a4 s:65b9 s:65e0 s:65e5 s:66f0 s:6708 s:6728",
  "s:6b20 s:6b62 s:6b79 s:6bb3 s:6bcb s:6bd4 s:6bdb s:6c0f s:6c14 s:6c34 s:706b s:722a s:7236",
  "s:723b s:723f s:7247 s:7259 s:725b s:72ac s:7384 s:7389 s:74dc s:74e6 s:7518 s:751f s:7528",
  "s:7530 s:758b s:7592 s:7676 s:767d s:76ae s:76bf s:76ee s:77db s:77e2 s:77f3 s:793a s:79b8",
  "s:79be s:7a74 s:7acb s:7af9 s:7c73 s:7cf8 s:7f36 s:7f51 s:7f8a s:7fbd s:8001 s:800c s:8012",
  "s:8033 s:807f s:8089 s:81e3 s:81ea s:81f3 s:81fc s:820c s:821b s:821f s:826e s:8272 s:8278",
  "s:864d s:866b s:8840 s:884c s:8863 s:897e s:898b s:89d2 s:8a00 s:8c37 s:8c46 s:8c55 s:8c78",
  "s:8c9d s:8d64 s:8d70 s:8db3 s:8eab s:8eca s:8f9b s:8fb0 s:8fb5 s:9091 s:9149 s:91c6 s:91cc",
  "s:91d1 s:9577 s:9580 s:961c s:96b6 s:96b9 s:96e8 s:9751 s:975e s:9762 s:9769 s:97cb s:97ed",
  "s:97f3 s:9801 s:98a8 s:98db s:98df s:9996 s:9999 s:99ac s:9aa8 s:9ad8 s:9adf s:9b25 s:9b2f",
  "s:9b32 s:9b3c s:9b5a s:9ce5 s:9e75 s:9e7f s:9ea5 s:9ebb s:9ec3 s:9ecd s:9ed1 s:9ef9 s:9efd",
  "s:9f0e s:9f13 s:9f20 s:9f3b s:9f4a s:9f52 s:9f8d s:9f9c s:9fa0 x2a s:20 v s:2e v33 s:3012 v",
  "s:5341 s2:5344 v5 x v56 x2 v2 m:20.3099 m:20.309a v2 m:3088.308a v5f m:30b3.30c8 x5 v2b x",
  "s2:1100 s:11aa s:1102 s2:11ac s3:1103 s6:11b0 s:111a s3:1106 s:1121 sa:1109 s15:1161 i",
  "s2:1114 s2:11c7 s:11cc s:11ce s:11d3 s:11d7 s:11d9 s:111c s:11dd s:11df s2:111d s:1120",
  "s2:1122 s:1127 s:1129 s5:112b s:1132 s:1136 s:1140 s:1147 s:114c s2:11f1 s3:1157 s2:1184",
  "s:1188 s2:1191 s:1194 s:119e s:11a1 x v2 s:4e00 s:4e8c s:4e09 s:56db s:4e0a s:4e2d s:4e0b",
  "s:7532 s:4e59 s:4e19 s:4e01 s:5929 s:5730 s:4eba v46 xa v10 m:28.1100.29 m:28.1102.29",
  "m:28.1103.29 m:28.1105.29 m:28.1106.29 m:28.1107.29 m:28.1109.29 m:28.110b.29 m:28.110c.29",
  "m:28.110e.29 m:28.110f.29 m:28.1110.29 m:28.1111.29 m:28.1112.29 m:28.ac00.29 m:28.b098.29",
  "m:28.b2e4.29 m:28.b77c.29 m:28.b9c8.29 m:28.bc14.29 m:28.c0ac.29 m:28.c544.29 m:28.c790.29",
  "m:28.cc28.29 m:28.ce74.29 m:28.d0c0.29 m:28.d30c.29 m:28.d558.29 m:28.c8fc.29",
  "m:28.c624.c804.29 m:28.c624.d6c4.29 x m:28.4e00.29 m:28.4e8c.29 m:28.4e09.29 m:28.56db.29",
  "m:28.4e94.29 m:28.516d.29 m:28.4e03.29 m:28.516b.29 m:28.4e5d.29 m:28.5341.29 m:28.6708.29",
  "m:28.706b.29 m:28.6c34.29 m:28.6728.29 m:28.91d1.29 m:28.571f.29 m:28.65e5.29 m:28.682a.29",
  "m:28.6709.29 m:28.793e.29 m:28.540d.29 m:28.7279.29 m:28.8ca1.29 m:28.795d.29 m:28.52b4.29",
  "m:28.4ee3.29 m:28.547c.29 m:28.5b66.29 m:28.76e3.29 m:28.4f01.29 m:28.8cc7.29 m:28.5354.29",
  "m:28.796d.29 m:28.4f11.29 m:28.81ea.29 m:28.81f3.29 s:554f s:5e7c s:6587 s:7b8f v8",
  "m:70.74.65 m:32.31 m:32.32 m:32.33 m:32.34 m:32.35 m:32.36 m:32.37 m:32.38 m:32.39 m:33.30",
  "m:33.31 m:33.32 m:33.33 m:33.34 m:33.35 s:1100 s2:1102 s3:1105 s:1109 s2:110b s5:110e",
  "s:ac00 s:b098 s:b2e4 s:b77c s:b9c8 s:bc14 s:c0ac s:c544 s:c790 s:cc28 s:ce74 s:d0c0 s:d30c",
  "s:d558 m:cc38.ace0 m:c8fc.c758 s:c6b0 v s:4e00 s:4e8c s:4e09 s:56db s:4e94 s:516d s:4e03",
  "s:516b s:4e5d s:5341 s:6708 s:706b s:6c34 s:6728 s:91d1 s:571f s:65e5 s:682a s:6709 s:793e",
  "s:540d s:7279 s:8ca1 s:795d s:52b4 s:79d8 s:7537 s:5973 s:9069 s:512a s:5370 s:6ce8 s:9805",
  "s:4f11 s:5199 s:6b63 s:4e0a s:4e2d s:4e0b s:5de6 s:53f3 s:533b s:5b97 s:5b66 s:76e3 s:4f01",
  "s:8cc7 s:5354 s:591c m:33.36 m:33.37 m:33.38 m:33.39 m:34.30 m:34.31 m:34.32 m:34.33",
  "m:34.34 m:34.35 m:34.36 m:34.37 m:34.38 m:34.39 m:35.30 m:31.6708 m:32.6708 m:33.6708",
  "m:34.6708 m:35.6708 m:36.6708 m:37.6708 m:38.6708 m:39.6708 m:31.30.6708 m:31.31.6708",
  "m:31.32.6708 m:68.67 m:65.72.67 m:65.76 m:6c.74.64 s:30a2 s:30a4 s:30a6 s:30a8 s2:30aa",
  "s:30ad s:30af s:30b1 s:30b3 s:30b5 s:30b7 s:30b9 s:30bb s:30bd s:30bf s:30c1 s:30c4 s:30c6",
  "s:30c8 s6:30ca s:30d2 s:30d5 s:30d8 s:30db s5:30de s:30e4 s:30e6 s6:30e8 s4:30ef",
  "m:4ee4.548c m:30a2.30d1.30fc.30c8 m:30a2.30eb.30d5.30a1 m:30a2.30f3.30da.30a2",
  "m:30a2.30fc.30eb m:30a4.30cb.30f3.30b0 m:30a4.30f3.30c1 m:30a6.30a9.30f3",
  "m:30a8.30b9.30af.30fc.30c9 m:30a8.30fc.30ab.30fc m:30aa.30f3.30b9 m:30aa.30fc.30e0",
  "m:30ab.30a4.30ea m:30ab.30e9.30c3.30c8 m:30ab.30ed.30ea.30fc m:30ac.30ed.30f3",
  "m:30ac.30f3.30de m:30ae.30ac m:30ae.30cb.30fc m:30ad.30e5.30ea.30fc m:30ae.30eb.30c0.30fc",
  "m:30ad.30ed m:30ad.30ed.30b0.30e9.30e0 m:30ad.30ed.30e1.30fc.30c8.30eb",
  "m:30ad.30ed.30ef.30c3.30c8 m:30b0.30e9.30e0 m:30b0.30e9.30e0.30c8.30f3",
  "m:30af.30eb.30bc.30a4.30ed m:30af.30ed.30fc.30cd m:30b1.30fc.30b9 m:30b3.30eb.30ca",
  "m:30b3.30fc.30dd m:30b5.30a4.30af.30eb m:30b5.30f3.30c1.30fc.30e0 m:30b7.30ea.30f3.30b0",
  "m:30bb.30f3.30c1 m:30bb.30f3.30c8 m:30c0.30fc.30b9 m:30c7.30b7 m:30c9.30eb m:30c8.30f3",
  "m:30ca.30ce m:30ce.30c3.30c8 m:30cf.30a4.30c4 m:30d1.30fc.30bb.30f3.30c8 m:30d1.30fc.30c4",
  "m:30d0.30fc.30ec.30eb m:30d4.30a2.30b9.30c8.30eb m:30d4.30af.30eb m:30d4.30b3 m:30d3.30eb",
  "m:30d5.30a1.30e9.30c3.30c9 m:30d5.30a3.30fc.30c8 m:30d6.30c3.30b7.30a7.30eb",
  "m:30d5.30e9.30f3 m:30d8.30af.30bf.30fc.30eb m:30da.30bd m:30da.30cb.30d2 m:30d8.30eb.30c4",
  "m:30da.30f3.30b9 m:30da.30fc.30b8 m:30d9.30fc.30bf m:30dd.30a4.30f3.30c8 m:30dc.30eb.30c8",
  "m:30db.30f3 m:30dd.30f3.30c9 m:30db.30fc.30eb m:30db.30fc.30f3 m:30de.30a4.30af.30ed",
  "m:30de.30a4.30eb m:30de.30c3.30cf m:30de.30eb.30af m:30de.30f3.30b7.30e7.30f3",
  "m:30df.30af.30ed.30f3 m:30df.30ea m:30df.30ea.30d0.30fc.30eb m:30e1.30ac",
  "m:30e1.30ac.30c8.30f3 m:30e1.30fc.30c8.30eb m:30e4.30fc.30c9 m:30e4.30fc.30eb",
  "m:30e6.30a2.30f3 m:30ea.30c3.30c8.30eb m:30ea.30e9 m:30eb.30d4.30fc m:30eb.30fc.30d6.30eb",
  "m:30ec.30e0 m:30ec.30f3.30c8.30b2.30f3 m:30ef.30c3.30c8 m:30.70b9 m:31.70b9 m:32.70b9",
  "m:33.70b9 m:34.70b9 m:35.70b9 m:36.70b9 m:37.70b9 m:38.70b9 m:39.70b9 m:31.30.70b9",
  "m:31.31.70b9 m:31.32.70b9 m:31.33.70b9 m:31.34.70b9 m:31.35.70b9 m:31.36.70b9 m:31.37.70b9",
  "m:31.38.70b9 m:31.39.70b9 m:32.30.70b9 m:32.31.70b9 m:32.32.70b9 m:32.33.70b9 m:32.34.70b9",
  "m:68.70.61 m:64.61 m:61.75 m:62.61.72 m:6f.76 m:70.63 m:64.6d m:64.6d.32 m:64.6d.33 m:69.75",
  "m:5e73.6210 m:662d.548c m:5927.6b63 m:660e.6cbb m:682a.5f0f.4f1a.793e m:70.61 m:6e.61",
  "m:3bc.61 m:6d.61 m:6b.61 m:6b.62 m:6d.62 m:67.62 m:63.61.6c m:6b.63.61.6c m:70.66 m:6e.66",
  "m:3bc.66 m:3bc.67 m:6d.67 m:6b.67 m:68.7a m:6b.68.7a m:6d.68.7a m:67.68.7a m:74.68.7a",
  "m:3bc.6c m:6d.6c m:64.6c m:6b.6c m:66.6d m:6e.6d m:3bc.6d m:6d.6d m:63.6d m:6b.6d",
  "m:6d.6d.32 m:63.6d.32 m:6d.32 m:6b.6d.32 m:6d.6d.33 m:63.6d.33 m:6d.33 m:6b.6d.33",
  "m:6d.2215.73 m:6d.2215.73.32 m:70.61 m:6b.70.61 m:6d.70.61 m:67.70.61 m:72.61.64",
  "m:72.61.64.2215.73 m:72.61.64.2215.73.32 m:70.73 m:6e.73 m:3bc.73 m:6d.73 m:70.76 m:6e.76",
  "m:3bc.76 m:6d.76 m:6b.76 m:6d.76 m:70.77 m:6e.77 m:3bc.77 m:6d.77 m:6b.77 m:6d.77 m:6b.3c9",
  "m:6d.3c9 x m:62.71 m:63.63 m:63.64 m:63.2215.6b.67 x m:64.62 m:67.79 m:68.61 m:68.70",
  "m:69.6e m:6b.6b m:6b.6d m:6b.74 m:6c.6d m:6c.6e m:6c.6f.67 m:6c.78 m:6d.62 m:6d.69.6c",
  "m:6d.6f.6c m:70.68 x m:70.70.6d m:70.72 m:73.72 m:73.76 m:77.62 m:76.2215.6d m:61.2215.6d",
  "m:31.65e5 m:32.65e5 m:33.65e5 m:34.65e5 m:35.65e5 m:36.65e5 m:37.65e5 m:38.65e5 m:39.65e5",
  "m:31.30.65e5 m:31.31.65e5 m:31.32.65e5 m:31.33.65e5 m:31.34.65e5 m:31.35.65e5 m:31.36.65e5",
  "m:31.37.65e5 m:31.38.65e5 m:31.39.65e5 m:32.30.65e5 m:32.31.65e5 m:32.32.65e5 m:32.33.65e5",
  "m:32.34.65e5 m:32.35.65e5 m:32.36.65e5 m:32.37.65e5 m:32.38.65e5 m:32.39.65e5 m:33.30.65e5",
  "m:33.31.65e5 m:67.61.6c v708d x3 v37 x9 v15c x14 a2e v12 a1c s:44a s:44c v5a x8 v22 ae v2",
  "a3e s:a76f v8 a4 s:1d79 aa v3 s:a78c v s:265 v2 a4 v2 a14 s:266 s:25c s:261 s:26c s:26a v",
  "s:29e s:287 s:29d s:ab53 a10 s:a794 s:282 s:1d8e a4 s:264 a10 s:19b x14 s:73 s:63 s:66 s:71",
  "s:a7f6 v2 s:127 s:153 v33 x3 va x6 v38 x8 v46 x8 vc x6 v74 xb v1e x3 v4e x vb x4 v21 x v37",
  "x9 ve x2 va x2 v67 x18 v1c xa v6 x2 v6 x2 v6 x9 v7 x v7 x v2c s:a727 s:ab37 s:26b s:ab52 v9",
  "s:28d v2 x4 s50:13a0 v2e x2 va x6 v2ba4 xc v17 x4 v31 x2104 s:8c48 s:66f4 s:8eca s:8cc8",
  "s:6ed1 s:4e32 s:53e5 s:9f9c s:9f9c s:5951 s:91d1 s:5587 s:5948 s:61f6 s:7669 s:7f85 s:863f",
  "s:87ba s:88f8 s:908f s:6a02 s:6d1b s:70d9 s:73de s:843d s:916a s:99f1 s:4e82 s:5375 s:6b04",
  "s:721b s:862d s:9e1e s:5d50 s:6feb s:85cd s:8964 s:62c9 s:81d8 s:881f s:5eca s:6717 s:6d6a",
  "s:72fc s:90ce s:4f86 s:51b7 s:52de s:64c4 s:6ad3 s:7210 s:76e7 s:8001 s:8606 s:865c s:8def",
  "s:9732 s:9b6f s:9dfa s:788c s:797f s:7da0 s:83c9 s:9304 s:9e7f s:8ad6 s:58df s:5f04 s:7c60",
  "s:807e s:7262 s:78ca s:8cc2 s:96f7 s:58d8 s:5c62 s:6a13 s:6dda s:6f0f s:7d2f s:7e37 s:964b",
  "s:52d2 s:808b s:51dc s:51cc s:7a1c s:7dbe s:83f1 s:9675 s:8b80 s:62cf s:6a02 s:8afe s:4e39",
  "s:5be7 s:6012 s:7387 s:7570 s:5317 s:78fb s:4fbf s:5fa9 s:4e0d s:6ccc s:6578 s:7d22 s:53c3",
  "s:585e s:7701 s:8449 s:8aaa s:6bba s:8fb0 s:6c88 s:62fe s:82e5 s:63a0 s:7565 s:4eae s:5169",
  "s:51c9 s:6881 s:7ce7 s:826f s:8ad2 s:91cf s:52f5 s:5442 s:5973 s:5eec s:65c5 s:6ffe s:792a",
  "s:95ad s:9a6a s:9e97 s:9ece s:529b s:66c6 s:6b77 s:8f62 s:5e74 s:6190 s:6200 s:649a s:6f23",
  "s:7149 s:7489 s:79ca s:7df4 s:806f s:8f26 s:84ee s:9023 s:934a s:5217 s:52a3 s:54bd s:70c8",
  "s:88c2 s:8aaa s:5ec9 s:5ff5 s:637b s:6bae s:7c3e s:7375 s:4ee4 s:56f9 s:5be7 s:5dba s:601c",
  "s:73b2 s:7469 s:7f9a s:8046 s:9234 s:96f6 s:9748 s:9818 s:4f8b s:79ae s:91b4 s:96b8 s:60e1",
  "s:4e86 s:50da s:5bee s:5c3f s:6599 s:6a02 s:71ce s:7642 s:84fc s:907c s:9f8d s:6688 s:962e",
  "s:5289 s:677b s:67f3 s:6d41 s:6e9c s:7409 s:7559 s:786b s:7d10 s:985e s:516d s:622e s:9678",
  "s:502b s:5d19 s:6dea s:8f2a s:5f8b s:6144 s:6817 s:7387 s:9686 s:5229 s:540f s:5c65 s:6613",
  "s:674e s:68a8 s:6ce5 s:7406 s:75e2 s:7f79 s:88cf s:88e1 s:91cc s:96e2 s:533f s:6eba s:541d",
  "s:71d0 s:7498 s:85fa s:96a3 s:9c57 s:9e9f s:6797 s:6dcb s:81e8 s:7acb s:7b20 s:7c92 s:72c0",
  "s:7099 s:8b58 s:4ec0 s:8336 s:523a s:5207 s:5ea6 s:62d3 s:7cd6 s:5b85 s:6d1e s:66b4 s:8f3b",
  "s:884c s:964d s:898b s:5ed3 s:5140 s:55c0 v2 s:585a v s:6674 v2 s:51de s:732a s:76ca s:793c",
  "s:795e s:7965 s:798f s:9756 s:7cbe s:7fbd v s:8612 v s:8af8 v2 s:9038 s:90fd v3 s:98ef",
  "s:98fc s:9928 s:9db4 s:90de s:96b7 s:4fae s:50e7 s:514d s:52c9 s:52e4 s:5351 s:559d s:5606",
  "s:5668 s:5840 s:58a8 s:5c64 s:5c6e s:6094 s:6168 s:618e s:61f2 s:654f s:65e2 s:6691 s:6885",
  "s:6d77 s:6e1a s:6f22 s:716e s:722b s:7422 s:7891 s:793e s:7949 s:7948 s:7950 s:7956 s:795d",
  "s2:798d s:7a40 s:7a81 s:7bc0 s:7df4 s:7e09 s:7e41 s:7f72 s:8005 s:81ed s:8279 s:8279 s:8457",
  "s:8910 s:8996 s:8b01 s:8b39 s:8cd3 s:8d08 s:8fb6 s:9038 s:96e3 s:97ff s:983b s:6075 s:242ee",
  "s:8218 x2 s:4e26 s:51b5 s:5168 s:4f80 s:5145 s:5180 s:52c7 s:52fa s:559d s:5555 s:5599",
  "s:55e2 s:585a s:58b3 s:5944 s:5954 s:5a62 s:5b28 s:5ed2 s:5ed9 s:5f69 s:5fad s:60d8 s:614e",
  "s:6108 s:618e s:6160 s:61f2 s:6234 s:63c4 s:641c s:6452 s:6556 s:6674 s:6717 s:671b s:6756",
  "s:6b79 s:6bba s:6d41 s:6edb s:6ecb s:6f22 s:701e s:716e s:77a7 s:7235 s:72af s:732a s:7471",
  "s:7506 s:753b s:761d s:761f s:76ca s:76db s:76f4 s:774a s:7740 s:78cc s:7ab1 s:7bc0 s:7c7b",
  "s:7d5b s:7df4 s:7f3e s:8005 s:8352 s:83ef s:8779 s:8941 s:8986 s:8996 s:8abf s:8af8 s:8acb",
  "s:8b01 s:8afe s:8aed s:8b39 s:8b8a s:8d08 s:8f38 s:9072 s:9199 s:9276 s:967c s:96e3 s:9756",
  "s:97db s:97ff s:980b s:983b s:9b12 s:9f9c s:2284a s:22844 s:233d5 s:3b9d s:4018 s:4039",
  "s:25249 s:25cd0 s:27ed3 s:9f43 s:9f8e x26 m:66.66 m:66.69 m:66.6c m:66.66.69 m:66.66.6c",
  "m:73.74 m:73.74 xc m:574.576 m:574.565 m:574.56b m:57e.576 m:574.56d x5 m:5d9.5b4 v",
  "m:5f2.5b7 s:5e2 s:5d0 s2:5d3 s3:5db s:5e8 s:5ea s:2b m:5e9.5c1 m:5e9.5c2 m:5e9.5bc.5c1",
  "m:5e9.5bc.5c2 m:5d0.5b7 m:5d0.5b8 m:5d0.5bc m:5d1.5bc m:5d2.5bc m:5d3.5bc m:5d4.5bc",
  "m:5d5.5bc m:5d6.5bc x m:5d8.5bc m:5d9.5bc m:5da.5bc m:5db.5bc m:5dc.5bc x m:5de.5bc x",
  "m:5e0.5bc m:5e1.5bc x m:5e3.5bc m:5e4.5bc x m:5e6.5bc m:5e7.5bc m:5e8.5bc m:5e9.5bc",
  "m:5ea.5bc m:5d5.5b9 m:5d1.5bf m:5db.5bf m:5e4.5bf m:5d0.5dc s:671 s:671 s:67b s:67b s:67b",
  "s:67b s:67e s:67e s:67e s:67e s:680 s:680 s:680 s:680 s:67a s:67a s:67a s:67a s:67f s:67f",
  "s:67f s:67f s:679 s:679 s:679 s:679 s:6a4 s:6a4 s:6a4 s:6a4 s:6a6 s:6a6 s:6a6 s:6a6 s:684",
  "s:684 s:684 s:684 s:683 s:683 s:683 s:683 s:686 s:686 s:686 s2:686 s:687 s:687 s:687 s:68d",
  "s:68d s:68c s:68c s:68e s:68e s:688 s:688 s:698 s:698 s:691 s:691 s:6a9 s:6a9 s:6a9 s:6a9",
  "s:6af s:6af s:6af s:6af s:6b3 s:6b3 s:6b3 s:6b3 s:6b1 s:6b1 s:6b1 s:6b1 s:6ba s2:6ba s:6bb",
  "s:6bb s:6bb s:6c0 s2:6c0 s:6c1 s:6c1 s:6c1 s:6be s:6be s:6be s:6be s:6d2 s2:6d2 s:6d3 v21",
  "s:6ad s:6ad s:6ad s:6ad s:6c7 s:6c7 s:6c6 s:6c6 s:6c8 s:6c8 m:6c7.674 s:6cb s:6cb s:6c5",
  "s:6c5 s:6c9 s:6c9 s:6d0 s:6d0 s:6d0 s:6d0 s:649 s:649 m:626.627 m:626.627 m:626.6d5",
  "m:626.6d5 m:626.648 m:626.648 m:626.6c7 m:626.6c7 m:626.6c6 m:626.6c6 m:626.6c8 m:626.6c8",
  "m:626.6d0 m:626.6d0 m:626.6d0 m:626.649 m:626.649 m:626.649 s:6cc s:6cc s:6cc s:6cc",
  "m:626.62c m:626.62d m:626.645 m:626.649 m:626.64a m:628.62c m:628.62d m:628.62e m:628.645",
  "m:628.649 m:628.64a m:62a.62c m:62a.62d m:62a.62e m:62a.645 m:62a.649 m:62a.64a m:62b.62c",
  "m:62b.645 m:62b.649 m:62b.64a m:62c.62d m:62c.645 m:62d.62c m:62d.645 m:62e.62c m:62e.62d",
  "m:62e.645 m:633.62c m:633.62d m:633.62e m:633.645 m:635.62d m:635.645 m:636.62c m:636.62d",
  "m:636.62e m:636.645 m:637.62d m:637.645 m:638.645 m:639.62c m:639.645 m:63a.62c m:63a.645",
  "m:641.62c m:641.62d m:641.62e m:641.645 m:641.649 m:641.64a m:642.62d m:642.645 m:642.649",
  "m:642.64a m:643.627 m:643.62c m:643.62d m:643.62e m:643.644 m:643.645 m:643.649 m:643.64a",
  "m:644.62c m:644.62d m:644.62e m:644.645 m:644.649 m:644.64a m:645.62c m:645.62d m:645.62e",
  "m:645.645 m:645.649 m:645.64a m:646.62c m:646.62d m:646.62e m:646.645 m:646.649 m:646.64a",
  "m:647.62c m:647.645 m:647.649 m:647.64a m:64a.62c m:64a.62d m:64a.62e m:64a.645 m:64a.649",
  "m:64a.64a m:630.670 m:631.670 m:649.670 m:20.64c.651 m:20.64d.651 m:20.64e.651 m:20.64f.651",
  "m:20.650.651 m:20.651.670 m:626.631 m:626.632 m:626.645 m:626.646 m:626.649 m:626.64a",
  "m:628.631 m:628.632 m:628.645 m:628.646 m:628.649 m:628.64a m:62a.631 m:62a.632 m:62a.645",
  "m:62a.646 m:62a.649 m:62a.64a m:62b.631 m:62b.632 m:62b.645 m:62b.646 m:62b.649 m:62b.64a",
  "m:641.649 m:641.64a m:642.649 m:642.64a m:643.627 m:643.644 m:643.645 m:643.649 m:643.64a",
  "m:644.645 m:644.649 m:644.64a m:645.627 m:645.645 m:646.631 m:646.632 m:646.645 m:646.646",
  "m:646.649 m:646.64a m:649.670 m:64a.631 m:64a.632 m:64a.645 m:64a.646 m:64a.649 m:64a.64a",
  "m:626.62c m:626.62d m:626.62e m:626.645 m:626.647 m:628.62c m:628.62d m:628.62e m:628.645",
  "m:628.647 m:62a.62c m:62a.62d m:62a.62e m:62a.645 m:62a.647 m:62b.645 m:62c.62d m:62c.645",
  "m:62d.62c m:62d.645 m:62e.62c m:62e.645 m:633.62c m:633.62d m:633.62e m:633.645 m:635.62d",
  "m:635.62e m:635.645 m:636.62c m:636.62d m:636.62e m:636.645 m:637.62d m:638.645 m:639.62c",
  "m:639.645 m:63a.62c m:63a.645 m:641.62c m:641.62d m:641.62e m:641.645 m:642.62d m:642.645",
  "m:643.62c m:643.62d m:643.62e m:643.644 m:643.645 m:644.62c m:644.62d m:644.62e m:644.645",
  "m:644.647 m:645.62c m:645.62d m:645.62e m:645.645 m:646.62c m:646.62d m:646.62e m:646.645",
  "m:646.647 m:647.62c m:647.645 m:647.670 m:64a.62c m:64a.62d m:64a.62e m:64a.645 m:64a.647",
  "m:626.645 m:626.647 m:628.645 m:628.647 m:62a.645 m:62a.647 m:62b.645 m:62b.647 m:633.645",
  "m:633.647 m:634.645 m:634.647 m:643.644 m:643.645 m:644.645 m:646.645 m:646.647 m:64a.645",
  "m:64a.647 m:640.64e.651 m:640.64f.651 m:640.650.651 m:637.649 m:637.64a m:639.649 m:639.64a",
  "m:63a.649 m:63a.64a m:633.649 m:633.64a m:634.649 m:634.64a m:62d.649 m:62d.64a m:62c.649",
  "m:62c.64a m:62e.649 m:62e.64a m:635.649 m:635.64a m:636.649 m:636.64a m:634.62c m:634.62d",
  "m:634.62e m:634.645 m:634.631 m:633.631 m:635.631 m:636.631 m:637.649 m:637.64a m:639.649",
  "m:639.64a m:63a.649 m:63a.64a m:633.649 m:633.64a m:634.649 m:634.64a m:62d.649 m:62d.64a",
  "m:62c.649 m:62c.64a m:62e.649 m:62e.64a m:635.649 m:635.64a m:636.649 m:636.64a m:634.62c",
  "m:634.62d m:634.62e m:634.645 m:634.631 m:633.631 m:635.631 m:636.631 m:634.62c m:634.62d",
  "m:634.62e m:634.645 m:633.647 m:634.647 m:637.645 m:633.62c m:633.62d m:633.62e m:634.62c",
  "m:634.62d m:634.62e m:637.645 m:638.645 m:627.64b m:627.64b v12 m:62a.62c.645 m:62a.62d.62c",
  "m:62a.62d.62c m:62a.62d.645 m:62a.62e.645 m:62a.645.62c m:62a.645.62d m:62a.645.62e",
  "m:62c.645.62d m:62c.645.62d m:62d.645.64a m:62d.645.649 m:633.62d.62c m:633.62c.62d",
  "m:633.62c.649 m:633.645.62d m:633.645.62d m:633.645.62c m:633.645.645 m:633.645.645",
  "m:635.62d.62d m:635.62d.62d m:635.645.645 m:634.62d.645 m:634.62d.645 m:634.62c.64a",
  "m:634.645.62e m:634.645.62e m:634.645.645 m:634.645.645 m:636.62d.649 m:636.62e.645",
  "m:636.62e.645 m:637.645.62d m:637.645.62d m:637.645.645 m:637.645.64a m:639.62c.645",
  "m:639.645.645 m:639.645.645 m:639.645.649 m:63a.645.645 m:63a.645.64a m:63a.645.649",
  "m:641.62e.645 m:641.62e.645 m:642.645.62d m:642.645.645 m:644.62d.645 m:644.62d.64a",
  "m:644.62d.649 m:644.62c.62c m:644.62c.62c m:644.62e.645 m:644.62e.645 m:644.645.62d",
  "m:644.645.62d m:645.62d.62c m:645.62d.645 m:645.62d.64a m:645.62c.62d m:645.62c.645",
  "m:645.62e.62c m:645.62e.645 v2 m:645.62c.62e m:647.645.62c m:647.645.645 m:646.62d.645",
  "m:646.62d.649 m:646.62c.645 m:646.62c.645 m:646.62c.649 m:646.645.64a m:646.645.649",
  "m:64a.645.645 m:64a.645.645 m:628.62e.64a m:62a.62c.64a m:62a.62c.649 m:62a.62e.64a",
  "m:62a.62e.649 m:62a.645.64a m:62a.645.649 m:62c.645.64a m:62c.62d.649 m:62c.645.649",
  "m:633.62e.649 m:635.62d.64a m:634.62d.64a m:636.62d.64a m:644.62c.64a m:644.645.64a",
  "m:64a.62d.64a m:64a.62c.64a m:64a.645.64a m:645.645.64a m:642.645.64a m:646.62d.64a",
  "m:642.645.62d m:644.62d.645 m:639.645.64a m:643.645.64a m:646.62c.62d m:645.62e.64a",
  "m:644.62c.645 m:643.645.645 m:644.62c.645 m:646.62c.62d m:62c.62d.64a m:62d.62c.64a",
  "m:645.62c.64a m:641.645.64a m:628.62d.64a m:643.645.645 m:639.62c.645 m:635.645.645",
  "m:633.62e.64a m:646.62c.64a v8 x20 m:635.644.6d2 m:642.644.6d2 m:627.644.644.647",
  "m:627.643.628.631 m:645.62d.645.62f m:635.644.639.645 m:631.633.648.644 m:639.644.64a.647",
  "m:648.633.644.645 m:635.644.649",
  "m:635.644.649.20.627.644.644.647.20.639.644.64a.647.20.648.633.644.645",
  "m:62c.644.20.62c.644.627.644.647 m:631.6cc.627.644 v3 i10 s:2c s:3001 x s2:3a s:21 s:3f",
  "s2:3016 x7 v10 x s:2014 s:2013 s:5f s:5f s2:28 s:7b s:7d s2:3014 s2:3010 s2:300a s2:3008",
  "s4:300c v2 s:5b s:5d m:20.305 m:20.305 m:20.305 m:20.305 s:5f s:5f s:5f s:2c s:3001 x2 s:3b",
  "s:3a s:3f s:21 s:2014 s2:28 s:7b s:7d s2:3014 s:23 s:26 s2:2a s:2d s:3c s:3e s:3d x s:5c",
  "s2:24 s:40 x4 m:20.64b m:640.64b m:20.64c v m:20.64d x m:20.64e m:640.64e m:20.64f",
  "m:640.64f m:20.650 m:640.650 m:20.651 m:640.651 m:20.652 m:640.652 s2:621 s2:622 s2:623",
  "s2:624 s2:625 s:626 s:626 s2:626 s2:627 s:628 s:628 s2:628 s2:629 s:62a s:62a s2:62a s:62b",
  "s:62b s2:62b s:62c s:62c s2:62c s:62d s:62d s2:62d s:62e s:62e s2:62e s2:62f s2:630 s2:631",
  "s2:632 s:633 s:633 s2:633 s:634 s:634 s2:634 s:635 s:635 s2:635 s:636 s:636 s2:636 s:637",
  "s:637 s2:637 s:638 s:638 s2:638 s:639 s:639 s2:639 s:63a s:63a s:63a s:641 s:641 s:641",
  "s2:641 s:642 s:642 s2:642 s:643 s:643 s2:643 s:644 s:644 s2:644 s:645 s:645 s2:645 s:646",
  "s:646 s2:646 s:647 s:647 s2:647 s2:648 s2:649 s:64a s:64a s:64a m:644.622 m:644.622",
  "m:644.623 m:644.623 m:644.625 m:644.625 m:644.627 m:644.627 x2 i x s20:21 s1a:61 s24:5b",
  "s2:2985 s:2e s2:300c s:3001 s:30fb s:30f2 s:30a1 s:30a3 s:30a5 s:30a7 s:30a9 s:30e3 s:30e5",
  "s:30e7 s:30c3 s:30fc s:30a2 s:30a4 s:30a6 s:30a8 s2:30aa s:30ad s:30af s:30b1 s:30b3 s:30b5",
  "s:30b7 s:30b9 s:30bb s:30bd s:30bf s:30c1 s:30c4 s:30c6 s:30c8 s6:30ca s:30d2 s:30d5 s:30d8",
  "s:30db s5:30de s:30e4 s:30e6 s6:30e8 s:30ef s:30f3 s2:3099 i s2:1100 s:11aa s:1102 s2:11ac",
  "s3:1103 s6:11b0 s:111a s3:1106 s:1121 sa:1109 x3 s6:1161 x2 s6:1167 x2 s6:116d x2 s3:1173",
  "x3 s2:a2 s:ac m:20.304 s:a6 s:a5 s:20a9 x s:2502 s4:2190 s:25a0 s:25cb x11 vc x v1a x v13 x",
  "v2 x vf x2 ve x22 v7b x5 v3 x4 v2d x3 v58 x vd x3 v x2f v2e x82 v1d x3 v31 xf v1c x4 v24 x9",
  "v1e x5 v2b x5 v1e x v25 x4 ve x2a s28:10428 v76 x2 va x6 s24:104d8 x4 v24 x4 v28 x8 v34 xb",
  "v sb:10597 x sf:105a3 x s7:105b3 x s2:105bb x vb x vf x v7 x v2 x3 v34 xc v137 x9 v16 xa v8",
  "x18 v s2:2d0 s:e6 s:299 s:253 x s:2a3 s:ab66 s:2a5 s:2a4 s2:256 s:1d91 s:258 s:25e s:2a9",
  "s:264 s:262 s:260 s:29b s:127 s:29c s:267 s:284 s2:2aa s:26c s:1df04 s:a78e s:26e s:1df05",
  "s:28e s:1df06 s:f8 s2:276 s:71 s:27a s:1df08 s2:27d s:280 s:2a8 s:2a6 s:ab67 s:2a7 s:288",
  "s:2c71 x s:28f s2:2a1 s:298 s3:1c0 s:1df0a s:1df1e x45 v6 x2 v x v2c x v2 x3 v x2 v17 x v48",
  "x8 v9 x30 v13 x v2 x5 v21 x3 v1b x5 v1b x26 v38 x4 v14 x2 v32 x v2 x5 v8 x v3 x v1d x2 v3",
  "x4 va x7 v9 x7 v40 x20 v27 x4 vc x9 v36 x3 v1d x2 v1b x5 v1a x7 v4 xc v7 x50 v49 x37",
  "s33:10cc0 xd v33 x7 v2e x8 va x6 v10 s16:10d70 x3 v1d x8 v2 xd0 v1f x v2a x v3 x2 v2 x10 v6",
  "x8 v9 x21 v2e x8 v2a x16 v1a x26 v1c x14 v17 x9 v4e x4 v24 x9 v3e x v5 xd v19 x7 va x6 v35",
  "x v12 x8 v27 x9 v60 x v14 xb v12 x v2f x3e v7 x v x v4 x vf x vb x6 v3b x5 va x6 v4 x v8 x2",
  "v2 x2 v16 x v7 x v2 x v5 x va x2 v2 x2 v3 x2 v x6 v x5 v7 x2 v7 x3 v5 xb va x v x2 v x v26",
  "x va x v x2 v x v4 x va x v2 x8 v2 x1d v5c x v5 x1e v48 x8 va xa6 v36 x2 v26 x22 v45 xb va",
  "x6 vd x13 v3a x6 va x6 v14 x1c v1b x2 vf x4 v17 xb9 v3c x64 s20:118c0 v33 xc v8 x2 v x2 v8",
  "x v2 x v1e x v2 x2 vc x9 va x46 v8 x2 v2e x2 vb x1b v48 x8 v53 xd v49 x7 va x56 v8 x58 v22",
  "xe va x6 v9 x v2d x ve xa v1d x3 v20 x2 v16 x ve x49 v7 x v2 x v2c x3 v x v2 x v9 x8 va x6",
  "v6 x v2 x v25 x v2 x v6 x7 va x6 v2c x4 va xf6 v19 x7 v11 x v29 x3 v1d x55 v xf v32 xd v39b",
  "x66 v6f x v5 xb vc4 xa4c v63 xd v430 x10 v16 xa vf9b x5 v247 x1ab9 v3a x6c6 v239 x7 v1f x",
  "va x4 v51 x va x6 v1e x2 v6 xa v46 xa va x v7 x v15 x5 v13 x1b0 v3a xc6 s20:16e60 v3b x5",
  "s19:16ebb x2 v19 x2c v4b x4 v39 x7 v11 x40 v5 xb v7 x9 v1cd6 x29 v20 x61 v73 x21fd v4 x v7",
  "x v2 x v123 xf v x1d v3 x2 v xe v4 x8 v18c x904 v6b x5 vd x3 v9 x7 va x2 v4 i4 xf5c vd6",
  "s1a:61 sa:30 v3 x3 v1b4 x6 v17 xf v11 xf v2e x2 v17 x9 v74 x3c vf6 xa v27 x2 v35",
  "m:1d157.1d165 m:1d158.1d165 m:1d158.1d165.1d16e m:1d158.1d165.1d16f m:1d158.1d165.1d170",
  "m:1d158.1d165.1d171 m:1d158.1d165.1d172 ve i8 v40 m:1d1b9.1d165 m:1d1ba.1d165",
  "m:1d1b9.1d165.1d16e m:1d1ba.1d165.1d16e m:1d1b9.1d165.1d16f m:1d1ba.1d165.1d16f v2a x15 v46",
  "x7a v14 xc v14 xc v57 x9 v19 x87 s1a:61 s1a:61 s1a:61 s7:61 x s12:69 s1a:61 s1a:61 s:61 x",
  "s2:63 x2 s:67 x2 s2:6a x2 s4:6e x s8:73 s4:61 x s:66 x s7:68 x sb:70 s1a:61 s1a:61 s2:61 x",
  "s4:64 x2 s8:6a x s7:73 x s1a:61 s2:61 x s4:64 x s5:69 x s:6f x3 s7:73 x s1a:61 s1a:61",
  "s1a:61 s1a:61 s1a:61 s1a:61 s1a:61 s1a:61 s1a:61 s1a:61 s1a:61 s1a:61 s1a:61 s:131 s:237 x2",
  "s11:3b1 s:3b8 s7:3c3 s:2207 s11:3b1 s:3c3 s7:3c3 s:2202 s:3b5 s:3b8 s:3ba s:3c6 s:3c1 s:3c0",
  "s11:3b1 s:3b8 s7:3c3 s:2207 s11:3b1 s:3c3 s7:3c3 s:2202 s:3b5 s:3b8 s:3ba s:3c6 s:3c1 s:3c0",
  "s11:3b1 s:3b8 s7:3c3 s:2207 s11:3b1 s:3c3 s7:3c3 s:2202 s:3b5 s:3b8 s:3ba s:3c6 s:3c1 s:3c0",
  "s11:3b1 s:3b8 s7:3c3 s:2207 s11:3b1 s:3c3 s7:3c3 s:2202 s:3b5 s:3b8 s:3ba s:3c6 s:3c1 s:3c0",
  "s11:3b1 s:3b8 s7:3c3 s:2207 s11:3b1 s:3c3 s7:3c3 s:2202 s:3b5 s:3b8 s:3ba s:3c6 s:3c1 s:3c0",
  "s:3dd s:3dd x2 sa:30 sa:30 sa:30 sa:30 sa:30 v28c xf v5 x vf x450 v1f x6 v6 xd5 v7 x v11 x2",
  "v7 x v2 x v5 x5 s9:430 s3:43a sb:43e s:44b s2:44d s:a689 s:4d9 s:456 s:458 s:4e9 s:4af",
  "s:4cf s9:430 s2:43a s2:43e s:441 s6:443 s2:44a s:491 s:456 s:455 s:45f s:4ab s:a651 s:4b1",
  "x21 v x70 v2d x3 ve x2 va x4 v2 x140 v1f x11 v3a x5 v x1d0 v2a xd6 v2b x4 v xc0 v1f x v16",
  "x8 v2 xe0 v7 x v4 x v2 x vf x vc5 x2 v10 x29 s22:1e922 v2a x4 va x4 v2 x311 v44 x4c v3d xc2",
  "s2:627 s:62c s:62f x s:648 s:632 s:62d s:637 s:64a s4:643 s:633 s:639 s:641 s:635 s:642",
  "s:631 s:634 s2:62a s:62e s:630 s:636 s:638 s:63a s:66e s:6ba s:6a1 s:66f x s:628 s:62c x",
  "s:647 x2 s:62d x s:64a s4:643 s:633 s:639 s:641 s:635 s:642 x s:634 s2:62a s:62e x s:636 x",
  "s:63a x6 s:62c x4 s:62d x s:64a x s:644 x s:646 s:633 s:639 x s:635 s:642 x s:634 x2 s:62e",
  "x s:636 x s:63a x s:6ba x s:66f x s:628 s:62c x s:647 x2 s:62d s:637 s:64a s:643 x s2:645",
  "s:633 s:639 s:641 s:635 s:642 x s:634 s2:62a s:62e x s:636 s:638 s:63a s:66e x s:6a1 x",
  "s2:627 s:62c s:62f s2:647 s:632 s:62d s:637 s:64a x s3:644 s:633 s:639 s:641 s:635 s:642",
  "s:631 s:634 s2:62a s:62e s:630 s:636 s:638 s:63a x5 s:628 s:62c s:62f x s:648 s:632 s:62d",
  "s:637 s:64a x s3:644 s:633 s:639 s:641 s:635 s:642 s:631 s:634 s2:62a s:62e s:630 s:636",
  "s:638 s:63a x34 v2 x10e v2c x4 v64 xc vf x2 vf x vf x v25 xb m:30.2c m:31.2c m:32.2c",
  "m:33.2c m:34.2c m:35.2c m:36.2c m:37.2c m:38.2c m:39.2c v5 m:28.61.29 m:28.62.29 m:28.63.29",
  "m:28.64.29 m:28.65.29 m:28.66.29 m:28.67.29 m:28.68.29 m:28.69.29 m:28.6a.29 m:28.6b.29",
  "m:28.6c.29 m:28.6d.29 m:28.6e.29 m:28.6f.29 m:28.70.29 m:28.71.29 m:28.72.29 m:28.73.29",
  "m:28.74.29 m:28.75.29 m:28.76.29 m:28.77.29 m:28.78.29 m:28.79.29 m:28.7a.29 m:3014.73.3015",
  "s:63 s:72 m:63.64 m:77.7a v s1a:61 m:68.76 m:6d.76 m:73.64 m:73.73 m:70.70.76 m:77.63 v1a",
  "m:6d.63 m:6d.64 m:6d.72 v23 m:64.6a v1d x38 v1a m:307b.304b m:30b3.30b3 s:30b5 xd s:624b",
  "s:5b57 s:53cc s:30c7 s:4e8c s:591a s:89e3 s:5929 s:4ea4 s:6620 s:7121 s:6599 s:524d s:5f8c",
  "s:518d s:65b0 s:521d s:7d42 s:751f s:8ca9 s:58f0 s:5439 s:6f14 s:6295 s:6355 s:4e00 s:4e09",
  "s:904a s:5de6 s:4e2d s:53f3 s:6307 s:8d70 s:6253 s:7981 s:7a7a s:5408 s:6e80 s:6709 s:6708",
  "s:7533 s:5272 s:55b6 s:914d x4 m:3014.672c.3015 m:3014.4e09.3015 m:3014.4e8c.3015",
  "m:3014.5b89.3015 m:3014.70b9.3015 m:3014.6253.3015 m:3014.76d7.3015 m:3014.52dd.3015",
  "m:3014.6557.3015 x7 s:5f97 s:53ef xe v6 x9a v3d9 x3 v11 x3 vd x3 vda x6 vc x4 v xf vc x4",
  "v38 x8 va x6 v28 x8 v1e x2 vc x4 v2 xe v9 x27 v158 x8 ve x2 vd x3 vb x3 v39 x v x4 v10 x2",
  "vc x4 va x7 v93 x v5c sa:30 v x405 va6e0 x20 v111e x2 v168e x2 v1d31 xf v26e x9a2 s:4e3d",
  "s:4e38 s:4e41 s:20122 s:4f60 s:4fae s:4fbb s:5002 s:507a s:5099 s:50e7 s:50cf s:349e",
  "s:2063a s:514d s:5154 s:5164 s:5177 s:2051c s:34b9 s:5167 s:518d s:2054b s:5197 s:51a4",
  "s:4ecc s:51ac s:51b5 s:291df s:51f5 s:5203 s:34df s:523b s:5246 s:5272 s:5277 s:3515 s:52c7",
  "s:52c9 s:52e4 s:52fa s2:5305 s:5317 s:5349 s:5351 s:535a s:5373 s:537d s:537f s:537f s:537f",
  "s:20a2c s:7070 s:53ca s:53df s:20b63 s:53eb s:53f1 s:5406 s:549e s:5438 s:5448 s:5468",
  "s:54a2 s:54f6 s:5510 s:5553 s:5563 s:5584 s:5584 s:5599 s:55ab s:55b3 s:55c2 s:5716 s:5606",
  "s:5717 s:5651 s:5674 s:5207 s:58ee s:57ce s:57f4 s:580d s:578b s:5832 s:5831 s:58ac s:214e4",
  "s:58f2 s:58f7 s:5906 s:591a s:5922 s:5962 s:216a8 s:216ea s:59ec s:5a1b s:5a27 s:59d8",
  "s:5a66 s:36ee s:36fc s:5b08 s:5b3e s:5b3e s:219c8 s:5bc3 s:5bd8 s:5be7 s:5bf3 s:21b18",
  "s:5bff s:5c06 s:5f53 s:5c22 s:3781 s:5c60 s:5c6e s:5cc0 s:5c8d s:21de4 s:5d43 s:21de6",
  "s:5d6e s:5d6b s:5d7c s2:5de1 s:382f s:5dfd s:5e28 s:5e3d s:5e69 s:3862 s:22183 s:387c",
  "s:5eb0 s:5eb3 s:5eb6 s:5eca s:2a392 s:5efe s:22331 s:22331 s:8201 s:5f22 s:5f22 s:38c7",
  "s:232b8 s:261da s:5f62 s:5f6b s:38e3 s:5f9a s:5fcd s:5fd7 s:5ff9 s:6081 s:393a s:391c",
  "s:6094 s:226d4 s:60c7 s:6148 s:614c s:614e s:614c s:617a s:618e s:61b2 s:61a4 s:61af s:61de",
  "s:61f2 s:61f6 s:6210 s:621b s:625d s:62b1 s:62d4 s:6350 s:22b0c s:633d s:62fc s:6368 s:6383",
  "s:63e4 s:22bf1 s:6422 s:63c5 s:63a9 s:3a2e s:6469 s:647e s:649d s:6477 s:3a6c s:654f s:656c",
  "s:2300a s:65e3 s:66f8 s:6649 s:3b19 s:6691 s:3b08 s:3ae4 s:5192 s:5195 s:6700 s:669c s:80ad",
  "s:43d9 s:6717 s:671b s:6721 s:675e s:6753 s:233c3 s:3b49 s:67fa s:6785 s:6852 s:6885",
  "s:2346d s:688e s:681f s:6914 s:3b9d s:6942 s:69a3 s:69ea s:6aa8 s:236a3 s:6adb s:3c18",
  "s:6b21 s:238a7 s:6b54 s:3c4e s:6b72 s:6b9f s2:6bba s:23a8d s:21d0b s:23afa s:6c4e s:23cbc",
  "s:6cbf s:6ccd s:6c67 s:6d16 s:6d3e s:6d77 s:6d41 s:6d69 s:6d78 s:6d85 s:23d1e s:6d34 s:6e2f",
  "s:6e6e s:3d33 s:6ecb s:6ec7 s:23ed1 s:6df9 s:6f6e s:23f5e s:23f8e s:6fc6 s:7039 s:701e",
  "s:701b s:3d96 s:704a s:707d s:7077 s:70ad s:20525 s:7145 s:24263 s:719c s:243ab s:7228",
  "s:7235 s:7250 s:24608 s:7280 s:7295 s:24735 s:24814 s:737a s:738b s:3eac s:73a5 s:3eb8",
  "s:3eb8 s:7447 s:745c s:7471 s:7485 s:74ca s:3f1b s:7524 s:24c36 s:753e s:24c92 s:7570",
  "s:2219f s:7610 s:24fa1 s:24fb8 s:25044 s:3ffc s:4008 s:76f4 s:250f3 s:250f2 s:25119 s:25133",
  "s2:771e s:771f s:774a s:4039 s:778b s:4046 s:4096 s:2541d s:784e s:788c s:78cc s:40e3",
  "s:25626 s:7956 s:2569a s:256c5 s:798f s:79eb s:412f s:7a40 s:7a4a s:7a4f s:2597c s:25aa7",
  "s:25aa7 s:7aee s:4202 s:25bab s:7bc6 s:7bc9 s:4227 s:25c80 s:7cd2 s:42a0 s:7ce8 s:7ce3",
  "s:7d00 s:25f86 s:7d63 s:4301 s:7dc7 s:7e02 s:7e45 s:4334 s:26228 s:26247 s:4359 s:262d9",
  "s:7f7a s:2633e s:7f95 s:7ffa s:8005 s:264da s:26523 s:8060 s:265a8 s:8070 s:2335f s:43d5",
  "s:80b2 s:8103 s:440b s:813e s:5ab5 s:267a7 s:267b5 s:23393 s:2339c s:8201 s:8204 s:8f9e",
  "s:446b s:8291 s:828b s:829d s:52b3 s:82b1 s:82b3 s:82bd s:82e6 s:26b3c s:82e5 s:831d s:8363",
  "s:83ad s:8323 s:83bd s:83e7 s:8457 s:8353 s:83ca s:83cc s:83dc s:26c36 s:26d6b s:26cd5",
  "s:452b s:84f1 s:84f3 s:8516 s:273ca s:8564 s:26f2c s:455d s:4561 s:26fb1 s:270d2 s:456b",
  "s:8650 s:865c s:8667 s:8669 s:86a9 s:8688 s:870e s:86e2 s:8779 s:8728 s:876b s:8786 s:45d7",
  "s:87e1 s:8801 s:45f9 s:8860 s:8863 s:27667 s:88d7 s:88de s:4635 s:88fa s:34bb s:278ae",
  "s:27966 s:46be s:46c7 s:8aa0 s:8aed s:8b8a s:8c55 s:27ca8 s:8cab s:8cc1 s:8d1b s:8d77",
  "s:27f2f s:20804 s:8dcb s:8dbc s:8df0 s:208de s:8ed4 s:8f38 s:285d2 s:285ed s:9094 s:90f1",
  "s:9111 s:2872e s:911b s:9238 s2:92d7 s:927c s:93f9 s:9415 s:28bfa s:958b s:4995 s:95b7",
  "s:28d77 s:49e6 s:96c3 s:5db2 s:9723 s:29145 s:2921a s:4a6e s:4a76 s:97e0 s:2940a s:4ab2",
  "s:29496 s:980b s:980b s:9829 s:295b6 s:98e2 s:4b33 s:9929 s:99a7 s:99c2 s:99fe s:4bce",
  "s:29b30 s:9b12 s:9c40 s:9cfd s:4cce s:4ced s:9d67 s:2a0ce s:4cf8 s:2a105 s:2a20e s:2a291",
  "s:9ebb s:4d56 s:9ef9 s:9efe s:9f05 s:9f0f s:9f16 s:9f3b s:2a600 x5e2 v134b x5 v212a xacc86",
  "if0 x2fe10"]

/-- The mapping. -/
def mappingTable : Text.RunTable := .ofLines 0x80 mappingLines

end Hostlink.Domain
