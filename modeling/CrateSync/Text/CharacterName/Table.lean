/-
# The table of the names of characters

The names of the characters of the Unicode character database (as of version 14) with their aliases,
except those that are made up by rule.  To tell whether a name exists, the table need not hold the
names themselves; it holds their fingerprints, which are numbers below `fingerprintModulus`.

The fingerprints are in ascending order, and each is written as its distance from the one before:
three digits in base 62, which are the digits of ten, the capital letters and the small letters.
-/

namespace CrateSync.Text

/-- The bound of fingerprints. -/
def fingerprintModulus : Nat :=
  599999971

/-- The distances between the fingerprints, thirty in a line. -/
def fingerprintDistances : List String :=
  [ "BbJ6bE4az2r45d6Ohs7aa35q3G22Nk3wqFTC0ax1tN4Uu0Eu6Yz3P73iHBNY24T3Ov6z701O7L32vd4vKAUT3TM16J",
    "JCy1UG0Jq25NC0B4lq04D1xR2DK0bG6gS0cL5DI2Zq1bT5g37Wh0Ro0Zo00g0in5Xc1De0PD6Ax15s6vW1on1CX1sq",
    "0L804n1GO7pU0lk0jf1GD38y2Md1j091S3KB01J0J45Bh0oy7OHIE30OZ22SBHS2Zy0Bd2Ea9Kj6K64SL0Xq01I0fw",
    "0x122z6j82E96oz3JCBKR2mQ0k81t12MC9Yg7mb1JU5JLAsV03e5bb4eT99d3WN1Dc0aO0T930l7qM9ZA1p58De2Xn",
    "9PS1aw2C851971d5Wc1LjFnV8ag3Br2OJ0gN0Sj1Vk3uo4oI1WI0pb2X94mk1yK03572I5Qz3hQFCb0OQ22p01d40s",
    "2l65OC2Hk36b78O7Ns3FS1zs2CV2GV0Ie4V08cd0AO0LjCBc3uE53E4LgFXr3OZ3Fl18YJdN1S82Bw6zH1sGAEA45P",
    "4762sU7iT4W93jU1cLDWwKg57DA2yf2700B70i31JX53768h0ME4kyAM91ve1qx6ahA7B7vC1Uk3Nx1Mc6JGBNi1cX",
    "22z2Y70sY0br0Io3T71051La0aA7Vb6enF2p1aN1Ku0QW1QTEzc2Xx4iD3BC9KS1F31RhAGt0c106v44U21HDnQSdY",
    "4lT03k26p7rr2ZL3iy00J0KhDHI8mM1g3NiB5D40255pz1F21gI6Nr7Wp8Q71C57eF0kmEzL4Yo1Oa1xk9RS33f1AC",
    "3393Gb18k0oE8vb2pM3PvI0B00p1YE3Ev26J6dc4ft66z0jl7Gj6Pv1Vm0in0Zv0YvCZg0yv4oh0xo56p3B52t554T",
    "0lGBQB7jA0iN3N85HZ0YT4PP02R30428g2xI0qb49g4TXCh41iz1Bs9T55UO25j6Ql0z84DC22f17R9Fa4nL2R08vE",
    "0J67272ai3RS0kh4rM0w734u3gk7Dv3D61cM6UgCST3ku5PVGXy4Vc2bc0BP03n4hD3bk1cZC4f2Rm7SM9gQ1ew3MI",
    "AsrAYm0rS2DA6Xy0JT0EO2NtFp34CT7E14nZ5pk7Ug2dW26R0mb3Hk6oJ2YS4aE3fL38g1j83xJ0HT4tw0zB0LH2sH",
    "2bw2TH6OL5Zi0YQ68l1sl0Bj8Rz1iE2am3EK1pr4280zh4TvC3x6hT0qw4GM0Q97N50Ic3gP92f2LF1SI1D033s9e6",
    "4rz0yKGze0jD2f8BHN0vY2p80XI8Y08GeEPSL7ZG0P36G7Ys0NJ6s83tPCt23wcB0W7SN8lZ6d4Ath7dq0xW4ei9o2",
    "44308L4Vb38h23p3YR7uz4rcFEW7Ll0PbBDR4Lt4kY60J0ai8Fr0gX0pF0D33LP2ND2B43fB9r10af06939C8M781l",
    "ACX0fu1DR0wH2E92VD3P389p7nI52c2WK2FDBv211L0io0PB3JY6zV2Ox5rI0Vv5O61XC0Al4wP41i1De0zr2Ym6Ys",
    "2cJ6uH0yi2Dj4RG7gz40m1bH1e134z2M05MC2SB2Bg1pm0Fl1D65MK2Oo28N2Ng07C1CE8RoNDt1Cz0QQ0tP0Xm3CB",
    "8hD4953Yk2kEA0a25L21n8xF2lq2l24M008C0VZ2I30AYAn63Qg7l0DhM0Je4569BA2eb2dg1Pd49eBGt3Kl6Bw35W",
    "0GIIJ01RP40D2s89SQ1hD46504x02905q13H3Og35o7q01A32FD39EDd94N627M4mhDMj1Ls7VP1St2rM5Nc0zz0oF",
    "2Rl4lt14u11f1bX7Ad2Yh59v2ST7CM0JY0470613cADCnAG42D45041I75be35dBOcOnH2nq1GSBFT2Qq01H3D0Eya",
    "GHG17r5Ay1vb1Nz0Na0AJ4dV0Wd5Yf2QM1T2884DW24EvPYF1cN38q0ZCG3gG3E0jr1KQBud2qy3Pc0Qz6mU0Fm5Ld",
    "4i73eJ0OJ1787Wo4Je60Q0ILAFu0bp0Ck0oz0ntJ6i4tw2jO1s32Fs1sy0Do1ir3wlGIh0JI1WS5A60126QV4g9I5x",
    "2uj1X97462mT4eA0oBBwz7qv0MA30a6Fp1pR4XU3rI02C0Zv2yb0OR0Yq2R21o801b0c702H2Mk2sPNowGFa5zE1GL",
    "3cn7cC25W4SG3Ei01i4zx1CX0Po2p13KU6511bX0qS01a7Hm5UA1rR8HF3Gn0Xr4ZF03l7qr6kqQaH92Y0lC1Uu3Fj",
    "0xZ0Yu2Vn34b1900uL53D1TD1Pz1Kf0VN1Uj0qa33I2gEAwS2On2MgCN35gb1xi07P65B0N20JgBpg1j20NB0UW1FP",
    "2XC0JX2WL7LC8511MD0z82E9Lp40C44Rg4MS3kF3KR02X47z4yj0Bv0k3M5I3mm4oO2l236L5wW2rx0uYAu8C2F0Z6",
    "FjN24J1A8CnKF970cX9O12A84G019L2Cs0C10qz74k0rr2OL9n73ac9bzBff1yB6bY2Gc2kE0sE7Xu11R0KO0142pM",
    "12Z2RS02e0bF7JK4570Qq0mcBD11no28u0iC19r9GD9YL10A3Cy5xy0jf38s8EF8RK08U0Oo01k2Kk1TH5P00bb16k",
    "AM12Ss1vU4Ei2gS3iW1kD5Qh8JrDCS3OI3XG2s81Xj8OF0l54LT3Vv4OE0Nu05dGOu3Ji24p74v3HR0YT7pK3A52Xp",
    "3HY8fy22t5Y61us48s0Y11bJBIH24001j0nA63X3xG4CcFZ43Zr2Bb1RQ2Pp4MI1Ki0Fv1OIC4P54G0mq1QT5Q79Wu",
    "02b2Xx2H50x23SkAX02gk3xT5vs0NY4Zh5Rk5hh4UX0XhIYr2iOGFZ1eM4724bd0iJ23T7Qt56J8mM3AH5myFhO67X",
    "5YU4SqIJA3ou00yHx556z7CB1xQ8Hl3fc1701Q971c2vO5Jo3J71zY6GgC2t0oN1XFJJR6ac2IC1H40IP3xZ2l24jC",
    "1bu6o99L40uJ03V0CD09P3xF1E40Po2nl1P02bO3Ua6hT8J919b03o09e3Ww45V3V04JC0nT3H61PB2KO0mUGEC0AN",
    "0wm1sU3E51N423zAU31rl62V73P0070D87Y53cQ3qB5xv00mDsO4zn1rj5mV3ZT7rC1bs1Y123J5l028B6cB3Sj17d",
    "NxKKCZ7MCF0G6jc3Fe8ew5pb0J81kr4JP1Cu41K0rJ2IfAuz28b3ku6TR0Lb1LZ7E32B40Ir9k05570k57Er3hc7y2",
    "1Xt5RG2PD1ov1wr1WP0fg1G820W1Hx0oS12y57WDs10yY0GL73w5V20wOI0M05f249CKY1EO1Px0SQ1XS5Mp7dh5ve",
    "0sYBV51cj1HZ0f6AQb0362JI0Qj0Xr0ca27372y6F91Ii4VT1wo0s42s84FQA5D6FD3RE3I31wL0Df2Zp1OZ5095sj",
    "9gN1cp3Dv2N70xoEt67ie5XO5eB1Nm4Ma3mE3xt00Z8cI2YyAln05H24S2NW4cZ14S4ze3KGNHh30d8zM40m0n5EcV",
    "6UBDY83bj7oh0qDBZH2GA562BWp2pd6TL06P1ws06V0ai9SH0WP4JrKAN2n31pe1GA07P4eC7E1Cmo0Pa1TD4ud0I9",
    "0W81n20302RU5KdBEq0Bq2iLKOp0wF6LmHhe5sR7Ba1885dk2gh4Da3CRAC01M50uj0Xi0as0P43jq2AJ7i30v500O",
    "0WV32L1yZ0Ya0KU2fc2jm7wG0hX1NO2hm36O7rc60l1NXCAs1ob7L30oW05o0Cg0Ze67p0PY4Qy5At1yl1Cy96f5ZC",
    "7F20790sX3s0CLT2Az0fB0uf0x23teEBp1WR27l5YS3ZA2Nm3Wx2ap3pGDMnDVX8x033x99G0H83j52s80YR32d06Q",
    "CoR2bQ0nG0ID3Tx6py3oH6pz2vm15Y0DqDgk7293P827TC9h25j1pX5jM0BL1Zk8WX61753C0rv6r45NE3b0HIdEkr",
    "1VY7yn5h4Ahw4mtF7W35s4Ju0mc5Ib0yA0UG0yE5Vf9Ym03B0AZCET1m529Q6s91PM03z3104op1TG0hA4Os2mn5ir",
    "2FUKmY7hD1F46Oj7P22Ga2BI0504KX4Gy21i4W10Q20C10EQ2mo5vu1bt69z1hu2sx0OW0Dz32k1SV0Tc8ZK8As8Rk",
    "1E10mv1ja6oi4a54k67kR2P32KC9S43Jy01A9pS2q104O3jx3Pd04c07M6MeEqh3Mf1Hn7kI22H3ZP13BMQB0nf3fN",
    "9Vt0JU9jS0BH33bLop7478WqASe12U1DH1cs1Qt04c13b5Ih3Js1023js7kPAJM1Cu7902a56x83ej3fd2202MV2Nj",
    "0MD2Kb0Au0Xm6Vq2nv06G3EH02R2Tg79a2EE3pZ1Yi18a7Li7yw29Z0ly7uh1sx4ia1oF27R0aHB8fIiJ0871gA0aQ",
    "0Jg5z0Ahx6D822xA1H3z32Xj0KR5Ph1HK0B01Th1TT7G84Un1Dj2nf0rh1K4Akt5lp8nH54H7Oy1Lj8CYGTC2Zt04H",
    "0ic0Vj29j4EG4B51V532zChaKBx3XF0k10kV0o30i425N2Bk78q33z2ePCJP0KI3uz0Mk1wV07L5pO7mZ5N92bIBYD",
    "2NG7Qr4Jy5SR2Hi8Ng1aP3AP4UP4B10FlXtG0MD1gW0wD05z6tE4ag66f1c20Im13U0Aq18k1630Rk1kh6131jW0Kv",
    "17BAZS2J64TE16j0Gb3ou2hk5tA4h21gv2mC4UtGkW1tR35d7xS0ImFgy2z925M1RO0fA33F58n2sb0OE47A56W7fM",
    "AD35m09ib3BP2cW4f06L08ur6NT8LA0238PI5Cr1fC0XDBbP1ka2wy02s4zk0XW6BGEhP1Da2O3Dat8vh1jE64x2Eo",
    "Azv5hG0SvETdAGf0PC8qH5Vr9Tl2Xx56X2Rs9fS0WR2AJBuwIZcCYN7VRGl82TS8HcGRP3hw2rk0Ne1Y726M41H23Q",
    "0mC2ew0zx3Lu5Hh2VD17i5tW1uAAAC74m27f1UW17B05I8Bc1jE2No6YG1upFF2DYN9i349v2yx2IO31e2xf4yO18l",
    "Dfz9DJ2iM2nK0OS1es0uN5IN7Hh0tc1IB0wa1Hi4sY0yG0Hh1yVGjQ15u0rz0g60we1yQ0oW1bi0nk6IJDvq3xi3vI",
    "0Hg1YA0cn1gX0pi0QE1bY5z808Q1fp3t12Sv2FI0Xh0L38Nk2E12ZQ0n59QcCLI2OE1Ax9df06p3Qw7PC0PZ7sP4on",
    "Gu1C675687wR14n1oA1260R54Yy1SaG2K40kAmL6qU2tK8PL8n98lvAV03DW0Oq31Y57t0fe3et0iTGTj4cG0QRFig",
    "1Qe0AG9jl9qL4m52Lr3FU4pS5DM9NR5IV0BY18d05q2rI4lL7By2Mv2j50Ax3us4Kp35S2Lv09p3792iH3M4EFp2Dp",
    "4ad5Pk9IE5EA2EU4fn7me1jS70U4280G8Lpg1Fz4Zk2031ju1NO5FZ1nP1ec0Bh5Rr2mi05Q0nt2Ah7ky3jR5Rc0qh",
    "0uy0P95XoHYf0dWB6n0u21N91Ua0Xy1Kx2Wg37Q4hjAEf29c0ox1SX2JD6442gp5WN0r6XiS3oj52H3my1w12VO4m0",
    "26U1FJ0H95vL1685Hp4Aw0904Ne0uD5BJ0eE5mL0TZ9ELBAs9Px7pV0dwBqs3H06sA0dS0c26DV4m948J3yc0Wl03x",
    "0rW2OY7ZPS3W2DJ0Ch2cw1aN5hk7aCQ4i6bg0bL1gk4EB2HD05J09k21x8oc5F52Mf3Yn4quKMp1wK5884Bv35g7In",
    "2PK2uO06t3Je0Ua2Ut48l1Ts1jQ2x90H12fz3Sa5Xf63N0xo170Ag90Lm1Vx1BO1kIJ1D2Dh5HU1cf3z0IKy1dw640",
    "3xW4d2B0T68L6pE1TO0Ef1rgCqj2fh0il1gb3Cu0Rk6Se32l1uq0Ml246D7L0ix9j06cs2CT0iZ6Kx0qu64m7Oj0ql",
    "4K370n13x1d514e1511lj8sl7Ik1xN47L39zCQg0Y10IT1cR11I1eb42r3i75FI8Gv4lDUXn0Dc6Fh3vk8Ts3av20O",
    "5hG83l16l4Pz3gA01y2IH5eE03k0FY1791om5qf0YMSkN2Gk0NE0ubCvJ0pV2kKALs3Bm3Cq63Y16LA7k3sp0pN6Fd",
    "0yj0Op4KjJNG2iM6JQ7Gf46y0i14WL6GN0Vj3dz12ADGz1Va39y1UW0wo2890953IU0aw10s0zP2QA3ir1XC41D9uR",
    "0aa1aS2Gj42O08e2SyBFl8S30dq6Hs2Yo3iK0Bu0Qu5Rc5gq32x0Bg0sI2C32nfDtu9l81sM7mK0Un0YS46X6Dj58s",
    "7WTCIH0Hp1NC1uO1gs0c43DX9TQ3S16Cr09F2E51rK2Vn0XZE1x4J96QX1dK1xnMvU25T8Er0MK0w81Mh3QX1DH33l",
    "14X6Lc5MN5sA2Z413g3jY9Np2oe5091DL45R6eo0Nt1KC2IK2OMGFZ2or0JKBYA2ys7mx0pMCgN0nm1RyEWx03G0xx",
    "2Ev1rY6047Oe07t2LA4Fo0jE0Co0dM4aJFvQ2yJ5KL0Mf0XU2io11O2cw0DZ0unEHNAeI5Nl6ZFA4q0pr3ry73l0AE",
    "2Nz5MM3mC9AT0T503h2qT22u1l75wK38t0i23Qn17p0v75uy2RR8ll7EN3A93ta13t1B20B00JO7gV1pe2rP6K4Bvn",
    "2Uz6aJ5JP6B769n16Z4z7L0K2Hq0OpB6H0La0xo4Mu0jv0f20RK3V45FZ1He6rf1A23wF1K46cb3TY1iy2TS40D8aE",
    "09z0831Ko2knFnd5vb11cR2D1e21Q753m0iEAxo0Su3cb5wO0710s01K22CS0DP17x1Uh7u7Jrl5Xl2AY9tJ10O02u",
    "0B382xBTw55d6xj1Ht4Uz2Qs05cAQu1mPA820Cm47p2xz5Xw1AI1h3BCE4970dt6Fd4TA09n1oX4Wo30iHOD41q6Kf",
    "3Dz2907Ji0a10lL2HD8TI9xn2KK2XIC6U2Yv9iq8bVB3b0ic7u66QM1rIDBK1JQ0bNCff0PA2Xx21K3AD4cZ2625Jj",
    "2gk2UJ3Yu2te3fE0OZ4ix2QP13vGpdADh6P12Bf1Sd1N4C0I4KFEP20L82Dl4UQD0m14C57g0g22Au6yF44n0IU2ty",
    "0zr2L54oM1kg18y3Wb3go9nY2hA9QK4d263J0wm5Ey6AQ2Ip0xC9it5Za8QB2YO4yq4KG2A83NB3dY1dv2ky6Kr17u",
    "74I0zM5Rx1Ot0dY1aB7dG2oT0Ej1OD7ac3662Mw0oX1ZvAlD1ka1Rk2hU1Ec7lo0bT2aoEo68rr8gf6N025K1ju3ar",
    "1px2R03bv0DxBhC4Zh4PL9wk5yH4qf1NG12z2BZ8dV0IJ0W4Kle0yE0220Ty6Qj4km1MD1Hp2xa1tC4kI34Z05o5vj",
    "0sk11h0oq1653ky8Ff1qaBeS4nm07s8G24za6fD7Dp0i9IfB6L90sG2PJ0ue0vs08m0eC4cf1xv3qJAIg8Uo1MQ3NY",
    "8xF7X359X1r62UJ38y2OrBGv2xh1jI5X22nz4eT3DaCcz5u42tJ2ri1qS0Bm9LA2OO1Wc5NZ0581s4GU8G1k2z53Dv",
    "1681lW42d1OS2TX0Ho3Iq0LW4ibAyA03M4004k42QW840Aok02VEId2s84W61aC3El2li0zK0pc0Cj5mB6JT1P92VA",
    "B0i42l0RsDVoLZ60s99j76Zz1Om23QHy71fI1xi03z1qL1mf0fb8gR5u780o0Ks1AS0uF27c0vd5fZ0XY7oA0yx68G",
    "8lF9yg0Cx52n6OF8f51Fw3ehF2v2P62JbC480mm15p2GM29b3IR5HmCKA00MChE8G7QOmF8O1CC8JD1rS0Ww3CR8YS",
    "3OC47H03t24I1SP0G647a8JW1Qv4o98eWE50ACB1jI8qB7VU6eM39mOYu4tm1eS1MZ2b010A2ki3jB0vT1R62HK0NV",
    "Blr2qX0v952zGMY1bTIw04MT3JC6foBfc0a65JUJNJ3275F70l30Du2N04i11QW5eUCpL0I01qU4ei1FOAfl3uA27J",
    "7OSBcG2NV4nx4Hv2lc38y36l0RT00c8af1c3305BRG2ix61u0sz4RZ0MC4A11yg5wx0Bw9Cm8VnA2a04s1AJ4HY0rW",
    "1s07FA2E93VZ3Xr2OL3u74J83Rr4Os07h4eG0PL1nO80E5BD1D10kP0Fs5JL2JZAvT4eO4tE6Jf70Q0Xp0qX5I10G8",
    "9rw2Sl5Ze5en0g72JGB9Y1bO4Ij4Ui2H90m91td07U6a63Ds08X7oa7dx56x4Vd2Ni0H83kE0371ip3Cw7bl42L9sQ",
    "3ZR1Er9Er0kK2u31lx0zF3DA0JK2Tg1Yp2Rz5hJ2dXCS13bE1Dp5Ft1Ri9WI1vl1ok5PP2sV7a23uE6M45pO7ID0CC",
    "3Pb3TA60o20T8ms5wy0sw41d0GC1Wa6zo6PK61S2So1Hi5Ch2CJ4BCZ2I2FX7NN10w03p0WN4KU3U32EH0Y3CJ0VBO",
    "7Gs6LsIvyUzKEJ60rw5Hi3Ls3fL0VE3Tc3Qq3TH0c63ne1259qr2Eg0872At1nF5Wd1Ga4eu4sq8nd0Kx2B697K4Nv",
    "2Lq54z5UN3Nm4Am2gd2iG0VQ0i53LE5Px4AM4hX1EA4GP22l6453Nf2q0DzP1wp0bO4TU3QX95d49iFZ89fSCT80KQ",
    "31vAf23tp0st02H0lW2LH0fj1yE6rd6Qe2PJ1Je2wy0UJ0453lx6J50kXCWj1bXAmC6k31pP1iZ0N667O1Nk1Na4uf",
    "0yU04d07t0D44sW1dQ43S8vV6tw1MD0xo01t78w0ef8Py1st27B0Rz3w1BWX45VBBo0ME9L03qh12r0sZ5QC27D1Dz",
    "5QA1DG0Do4zT48M4FGCMh0os1L51yQ0T403l0aa2xZ9XS13O3Tz1Ut36E3rr02x8hM4T707vFIK3ia6iR2nk1Os3Kf",
    "1rl1iL5KW4L13EA0JL2Jq1oD3p23hZ3aO2ZVHXR4q79f2BTD0jJ03R0X0Evk2hTHy623N2B74jPFy95sn0t73v61iB",
    "0Ps0nlDuL2b64EC0DY34T5Qm6Lf0s4C1n5Jw4Ia0bm3NB0pY8OT7QKF2p3tk2CP2Xc2BX5zJ0xW3PK6ac29C0Li45D",
    "022Bvw3fr1Vj04J2gk0bL3tZ0qL5QZ6xn3Y8AJh5qp3uP3DI8I90Rf3K71l992G2gJ1aL5HZGxG12t2X627123H3ha",
    "03T1763rS8wV2Tx2Wm1zx08711a6G51Kb26x4hk1kg55X0VL1t462j0823ic0mc0bE0Qc2kPAc2F6R6Lc1AjNf00Dq",
    "1El24P2ZZ1Uh9mZ02c73v0bW33O55Q8kx1Yw09o6CF3Vd1b01Hg7QI0Lq8AA6479xTBdY4Bw0aiAmZ1dMAzX0E73Ef",
    "2b93Yk0dw0VY6WJ57Y2C62LF5bh5t30dK2RJ0E70TF2Zj5VxK3VDHr8km1ei44V2gk2XkCTY8VO09p52I1KU0420RO",
    "2S13Gp1Cb1PZ2wm2Xw3CRCC35Mx5rz0hzAR50FIBnF1Zx2Cc0MM0Gx4ozGxF1qd4LX2B42CM1Cz0d710k1QV42m2AF",
    "FobCSG0mW2Qf6Gf0FvASm12v0zO8ZsEwS3df0Fc4dr46p4Ok9eY16b41e1MJ4Qr2GvAGK3fX1vR5De5niCxp2af1Bz",
    "1AX3AK4IS4zt0Kk31Y2b51GD3Og96J7ew1vz2AT7HW7dI7xW0X10zT7Ei2J22Iw3Fa88j5oxB2E31s5qV1P911J01D",
    "5Gx09c0Tl0yWCeqCgj1Zk3Qj2JDAH39rr1ZL4qUGw70qO4li5a20Gh7A91GjA1P07d5QD1y147jKwp5Pp04k0Wz7A0",
    "4BP5s80DA1DZ2fp1mF1F91nA0r9504Cl97gi25o1lV8td04KEdO0ceCMf7gd0VX15m7yj37Y4J33hBAAaAff3rl61w",
    "1oh6ns6N33y64wU4oz2QK3q04l56qb18Q3KV7AD6WS0BM1ir0Qi8GrBXt1RU1GV4Hr0y45TT2SN2DmBET3pADLfTbV",
    "91m5Ae5sc3Bi4su0UX1zn2980U70vg1F65aqCNu0Do0P200cJMX4BM2eZJ320tv3bi0s245J1bd0jz0Z30KA1Hf19y",
    "7en1l42PD4854bc08705V1jF1ZC4pL1GJ27g2Rp3P67oL3Mg2BF1iQ1L33530pe17rF9s8EJ8nu6H65aO3ZR0ij2LW",
    "0Ss6OA6Pt0sl56w07k7Do0tu67Z0Kk4Dn6f648z2V76C13PH0kw8bmBR02NC1JC37N12k0YX1BS0Gg02l2td97T1oH",
    "9uD0Cf9617Hq3KW0aP2op7K73wI4QW4XC0xn0x04dV7Bg3ok1hk2GM0pz0Bi3BR0C10DH2A5L730Lv1yf2Iv3M30F3",
    "0NM01p2t36nT5eJBbz2LS001KRmDnu0gKBNwEam3nJ0Dd4O06Pw0Vj1U32NW3WS1LO4252or01d90k39Q5qcCqX1DS",
    "3ZlHIq0gG1ZkARU2GF0UBWbq20E68t3yK36t3iR1Ze08h5J3HqY0lT3KV0MV4Tr1MS4945h76Aj1pS0pa0D63wq9rx",
    "9wEAoR0qIDmT06z3Xa8dS0ME9So2q42oF3mb4b69SQ1ZJ6RVN1K4DV7Co6SA093CiI8AY2ZO5583tb1QTA3x4vf2Xx",
    "2gT7y31GO5Ix23R0Ok0EZAGt34E4An3EH1YW2bO4WUE2A4bG7zW0gB7Jr0EU03k2Uh3yg2Sp12UAlq98l1be6yO0CK",
    "9AUJ1d2a35hV6IK15v2XH01kCpq24s1Zv14iDKn1F72kJ0iG4ie1I02Kr4651r58Kw6xE03kBay0rU0wu9Mh3U39cM",
    "1mM63d14c51OPeV1lB4an5KiAqK0Aj07N0qR0Lc5Pj33P7QiDa21Pw00f0RX4SR2oc1Gt5HZ0YT88yCQN4Xv2mr8Xc",
    "B0w58P9Vc4oN0eeHXX4kq1kt3GA2K13YH1Cp0LE33k4mq39R2131561Tw0m70cCA1c0Ep0r11c020I3jN02m3Nv6Pf",
    "4IJ0hB08R1yb1GS59L3gq4Us4tP1LG2lB28F4v65O207W22j1CH1ms2VM1Xq2GG0jE7Yu73E8i70zT02y1qn14wFlL",
    "1gL9Mx4XiAy236L6Ru1x82KP1cm5V60jAMvN0Dp3l60YJ52Q0WP2YSA8B2Me0cY3xJ0HT3Lz5kg38E1XP0GTD5EC3n",
    "7WV4Su1Sr2Ng1Qs7l96uH0Mu3bw7mV2Uq1LG1fj8mp1HQ3SW0W2Av10V60Xr0ca06iBeE1wt3MY2qV3jO0Nx2s8Dtw",
    "0Qh2Ex5Oa3ek0uO2F81pa1Ux2wV1QTC5H0dp2ZC4L28cT56gExl3jH4TW0Zy1aT0oL4lk3AR5Vn2Zf6El7eH5ch5b2",
    "0mm8qL1dr1at25M4n21rX01e0TS6lyAHL50e3ZI0Lc0Og1eD1hCKaN9Ur2yS2iiD9v1VO11x9Y10zL2Vb0rN3691nQ",
    "2dJC7s4vL0ai3tV5Ym0WP4W2Cg08GV1Hp0k5Afv0VZ0nk1V14o70lO7ylGp55wh5ZP0vu2iL5sz9Ft0yg9AC3eE4w1",
    "HOwB190Q123G0T26uH0XY04w0ME2Dj4RG5sN1BP0dD5c32AJ07c3JL5tp0w71F21D950X2QJ2Yn7lr4W7JfgBZZHcQ",
    "0f91bz0kM2jk3eP2or5G21eY0qB1vp15E5612cQ5og0rM8lBAMX2trIEc2xB0YI6L15Y41qt3Af8e424e0Nd2ps0gq",
    "2mN0QD2gH7X40Dh6Y01qy9Gc0ny0Hf40D2D10f7GVv0iI0mg1ti1Wa2cI1di3UV0eA8Zb6ms0ag6rN2RZ2uH1BZ3i8",
    "0p10id5VF5ZO1Vc4LP5UK4910EL00130A0zz7QN0i30W01cu3BG5S22ly0e808y2hb22h1eU0us1HF3oP1P505y4ht",
    "9kR2kL0JR1Hr5Q964q1365gqF6h0Pc23W2YB0H60Us7MXEGq1Gv7tG7gv2lF0uC79R03L6AG4jq1wg3cp1bWC5W1Og",
    "1UG7WY2wJ2rS2ht2Ra2Od0O75jI3Jk1Y87CY7Bw00rBJhCN23g47qY3dH6cv195B984Gg0el2gj4xT1Ss03R5xt2xg",
    "1yI7Bw1kN6BP5Dn8iD4vx48fAPQ1mN3zB3kb0e74Ik3UF1ds25r1IR2o29lYLyJ25I1U70bn7dq1jS2qv0FQ13K114",
    "6P40i838XEINHZ43js74k0qf3GV0MA1DbFUZ2XA4ER3cK1DH3X63K233H7xF1wC8GH1Dx0QPZPb3Fs0XX24u8ly3M4",
    "0Zh4tl6HC0gX0R54ty9KG4i04dl2Bv91oZu6BEfIy29u60eX8fW2Kr0x91EMBKv3NA8721zm4ch1Xp0gi1MF48b8Bn",
    "0sT01J0PG3DL0l54Po50B1JC5k03NA3u29Ad0LZ7ge2s64hz6p5Xqa2bk0Fh4Fw8QA9Xb35Q1FVBcR3jTINC0Cf6ja",
    "6LU5xF6gV1CZ6f85dB60eDFW8JN8Wy5Kr9NFItZ1w73DU7RJ1X06hT2uAAIy45V3rR0Bf3Oj7X25LQ85h3MALxK2la",
    "1mE4LF2rJ01K0zS1S81FP37CBOGASMArH3Sz0mS0Aa5Q02N0F9s0Fh2LR2s80qX0jM2dY6JG7hf1gF1iZ13P0jd2NW",
    "E1O0Ba7MU8Hi0Ta3vk0Z10Kj23u1Fa9gJ6Jd5fn5Dc0nz0eW9uk05o2Hr3nr2st6cj3O41usKQy72X0HD1so4Zt0bJ",
    "4HF3PL7ye3gk79h2gk0Sz4gC2Xx4i82qH19A0wI3fy15u2o805q2auBD143P1wA5aD6oQ0tL2sO04K8SaE2p0lF138",
    "5J80qR4KW5pP40M2vx3780pv0On6yL1u22EO00j3UI0OP1Ql1Dn18q7oPDnJ2862Ju2001Zc1vTGnA82w1Yv3Rk0NA",
    "BgB0TW0un4tZ4FD3Pw3jq44T6NG1yL6RE1X6EaDB8lCOa1Vi48N28J2ZZ7CU5mT4hF1CV8rO3CIHl79bYGJv1Ln4wE",
    "3h25Iq2fy4ui5hG9GhIFI1Tq1vb04z7qC7oz2V70Fe5ER5p43z26om0Zi2WM8LF1ElCHp08W0ut1PD3SP0jE20P0Lw",
    "7Ro2jE7fl1SV6RO5lh0Gg3KM6Y3Cdb2IH0ZwCQh1pc1GH7xY1lc8dCTag11R4SW0YG1kX14L0vD4vb0kI3uV0Xv1CH",
    "7NU1Ux6a414p9ss0Wk2LK22lAEZ4aYLEo5Ov2PD5xr67o5Pj7Ny12g36g0gf1e21EtBvqEfk8n44629c96uH2El3Tx",
    "1uzAEf5Jh2o92ng9hU1Sy0Md20s1Yg9A10X41QY2FZ5DA3gW0tH0s40rh20R2mIH8J2WN75Z2Ph3qI21g6WB2RW4Ft",
    "0pXDSP94hH7p4TU2gp2JN2Cb6cY9ZR76552VA8z8Ju1QT4RP6LC2g60Fz1IV1mi40p0YO03i5uj2sZ2l10s60Xn0MQ",
    "23M1Py2dxEheHjX6BW9Xt86V0C52vT2jA1inKKA2S60ai5jj4Y80Xc0jW11JEaY1j99z007i0gU2iT7y61NvAvA4K9",
    "8WI4M54zb19D7kY2nh55D6Fl3SL5kQ4wC46D1EcF2k0tc4QT8Ji4HTBSz0O28GR1801lc2Yf3aO03A2AJ3NV0Of12y",
    "4P87Wo0yXBNZ1NO1rj51jA8U2lY3WQ2iP1gN1CM1Bp7e63oH07J3SS1z41OZ3PE0Xw3uA0PuBAD3i80qf5ZC0j85ih",
    "0uM5AA93I2FL0dD3kp3pz2Bh2IN0011l841Z2B0ArC16C65I2W53qb0fN6B57v53Ja0vE7zq6jp5022jY4sq08y1hL",
    "6NP0sL2uPHEX2g45p93Vv1H46ZW4gU1rZ9we35JCC62LP0Rt1Me33b41X3na1SA2NR28S0Sl4cm5V70ruEnt0my7Hc",
    "GaQ81EEwL2eO4jN4rb6Dw3IsBHo0HB0S93IbBcF9T021xF9kFlz1Ww0oB1WG2Xm0fQ3LI0cA3b51FA9207nP0Gv08t",
    "Eb45k149dCig4nZ61h3N734j08z25L0Aq2M81gN0sV08k2PO3aw17j30t2ip0t610c3SG8ov8Wx0X229L3dc1bB4ba",
    "0mrBo50MM1HP3u00YA1424sS05F2Qg69u2SJ7Q3A5E66n55O3AQ1094Xr0kb2gv1DT7Ft5G42KzDjQ0LU00m2Ej4z9",
    "78o0Lo16aBOa3FF09F0Ob97q2EQ6Jr0OL0nY6mcAx80ft0tG0sZCzY0hq0Pm0FRCQu7861TL1DHFbM1QC28u0jH1FY",
    "2Iy1f80GQ2C14fg1jj5o03TP8JV3028E27vY1buBMT8DZ2we0hH1w0CBY4tu6em1sH0t7EnK0aH0VA4Ck3Ml4Tv3ny",
    "5p214v2Yf5q545S2ne0UZ8Un4cC5MU0KO3MK2mPBUh0ik4TV0aS87h8ll0VC03m2jx75c0x13R73rd5F6CYR6iu2Gb",
    "3vw6RyBM129B4YH2g41ty2wJ0t0AMu5oQ1W5I1c6hB1ZH67S3RBHAB3Zx3dx3NE2L81RR1Ot1PU5pw8tR5nV1RW3Mw",
    "2NG6jf0hC0Na9OpBxw7wf0Kp3Ab0b31BS6OG4LoDla0IM0iN2t22SL4D60wD4Rm0cW2eq3TW3Rr0Zr5bK0q41Oj5ym",
    "79159C4cK0If0LX1kz2QA0vV1DS0Gb3ou2mW3dH36b3lY7KF0aG5Rq1ro1RV5hWAnf1eT6t04k28CS81z6DZ7XJ3HE",
    "2nV4dJ5EO1VAICg1uK1Ol0UO4fx17y0Vq3U0BZs1LM05v9Ab0fk1Qy1e505f1Ve5h98vu0es6I67Ji3Ok0jH1hN0VP",
    "03iVwX5mD1tD13S0jJ9MQ3WE4PJ2J703a3EU2gQ2Dp8o71D276A3ab4TV1d97tI4v64MB0Zm59714R0gz7k405v0F6",
    "2Xx2uf2Bs0cB6BQ00m0wc4ML2gk1J017K0ND2XuXAx6DnGtK8Lv19i1oi1sL1sbCMd4Bq1nn1ih8K12qrGU10Ss1qq",
    "41A1CM03s0mi0x889I5HQ1Bh5WS3jd4BP6UE1sJ0He3NX0jf1zQ3G7AjN0UH3H50gk2AJ5iT5Dk94d1nYG3r1o4KTk",
    "0Ce7uT95c0rx3JD0mQ1zEHAq0S3DVI4gc2QE7RlA6Y2Xs0vi54B8Dv4Ll5sf6uZ1juAJTD5P1mQ09l0GB0WI4Oc5E2",
    "BZs7Cl0034xZ1CL4nh1Cl2W02zpAa861CDCV5682Dt0X13TG3dS0oY1BK0R53T219A5fO0Ke5By1ej3Cs5un6nL3T2",
    "Fgi3fS5yP3FH6lt0Lv7H82qD1mG1pU2Sd5YeEsE7BV0ywBpG0Qa0lr1FR2tk42D7X30gc0ik1trAnn5EF14s79T46v",
    "3gd0jV0pF5AT5qBCIk6Q31ym0Ax5osED068x1dq3VE0h91clDdg6EYAWl6uH0vB51O4MO2oO1mS8b71bZ5pq3mX4FB",
    "1zF2xF1Kt6yo1L902FEL81eW1Dc2fd4pt4Fk2AR10y3TA1Um4Yg1Cv1x16hr2wy2ND0HM1Ci7mZ0by2x77ag3791CS",
    "3pj8y41SK29l46S0PP1VE18517W4Eg1tl0lV0Cp9tF1XBAUNCxZ0SB4T7BdH3my0RV4dt00nFGe2gq0K26qQ0jC2tu",
    "0uD0IM8KgEST2oF2ME2Mg1s0Akb65q2ne2tX0WZ2Ju0W91945NG0ai87e7Ph4Q47Go0ai9UG1zu0El0Do08P9261o6",
    "2Xf2yp2lA9JX0u6CCG1j41p93E40Uh1b20II9D72Uu1Th1cE7Gf7ED0we0k63iz5SH4Yd3r70gE4Jf32E33HJNR2rI",
    "8Yt5ld8g247lFsU1eF2Ns44p64C7aa0xo4LS2Dn01K4Hn2lF3UG3aT0Do8k278n4fW1QM2X52WE52N8Rg5bO1Vj37a",
    "1l73Hh4vh2oA5dM7XM2DE2MR6UG8t4ERG9u60Je20f24R3V29cJ2ljFec6Ks5Hd0PV0861Fp7KJ3AI1yK1Wq7R41uk",
    "2Vg38yGld4lAHJg2ly1cm1Cc0R43uI1Rk60s1JN03r5GbJsT1Nh44A0rW7Ei1sS2E90Q47kq5eQ0y518n5Jk33m0A8",
    "25W1Nz6dA3Zf6NF0iZ2dA0lh1Ct3B709e95s0zC8Id5xJ1r70UO5Sf4g126b2D12Kb3IK1V90bI1Qj2qB5JF0li0Fo",
    "0RU1oA3Cb1gJ0bd7jJ0FU0HF5Eq1do36s7tpL7f6P99Xj0oE2eq0kF3P84330Wg9hZ18V0o2BF26xu6Pf5xq3HB42V",
    "89I2pB0LcDu12pn4wM21F5Wv6Zq3JT4bp1Ua1vN5Qj3uE5sWDb941E0ZD09D3F60I85Mr1SV2TG3P54BL0wn5OY3Va",
    "7tdAGA3ZF2y72VEJ5w0R11c734e2zX9o72bD25528K4dm2hL0kdDaA0dY3w40UwCdd2cR8ceCXN04c4nE2Eq1gb0LO",
    "E1V1CK9AV4iD0wb2FA3b3DLa6KL1GgJlD43P4xbBDW17Z2I0GbD7OK5mq1nh92K3RX0Os9lG06R4bnA6s44820J36A",
    "5Py3tM0oP1Wj2I41S82ZL3jH3Un2tT3Qi0CT1u64GG0vI0bN4ft2Qf0JI5vTAzH1b20lb1jc0GJ1Mz2po2NGH012Hb",
    "00s4Ba1QJ4jh2gC0SW0Xn7hI3Qn5qtDKD5FWBHV3dqFYA3CR2oS2LZTsl2Qs1fb0j95dN5gA21wGrQ1VI2cM2UY0xo",
    "9hN6Y5FvX3z4ZVN7xo2u55Xk5FJ4NYEhY2Vc4x39VK2Qv2gE7tN2lv75lEqK28B2LW0Lm6BT5tU3znA3J4Np2694FP",
    "00H48C2gu1ar1yhHO27NB4Gg7IyAhf0Yy78Z66v3Ud4n01uyCe30aA4VYCZe3iy30h5Bc3ph4zk0NF2IHIZK0Xo0B4",
    "0EICQDEfPBnPMoD9O67Q91g54MG21Q0xW3Vd4M08iQ6hT2UT1tU0aB5YG2gk27D0PF4DJ8KY00e2ee0BP1cL6yD1Ab",
    "02qDsNI6G7520OE0GO4Ge0fo3oN3KZ3uJ6oACwu7QyNAZ89I1kg3cI1UrD2m3hL3mo1Bw0Pb0R07eg0C52hs0o257d",
    "05g94q0eq7Tq00i1bK6pE1Ua1z54rz21aBc61jn0fj1QK02VGHe7dz16y7uz10c2V16MO2MfAd23HI4HS2Wf3jo2SU",
    "39H91o2rB0ai2GzFbN5fi3KA0gK1PE1Sy6mm6YH1lX0C22kt1Rz1HU89Y0Ho2pnBkBDAp1rN1x70jZ3gY6v31Qq2Em",
    "J5T2f66kb2jg14o47H2dI2Sd6Wb1wW5UL1B75jA3CR6TK3GO7U958P7pE4dr2hzCBB0ge0ozC1M4W1BM21Ey31l0vA",
    "57v0uH0Lg2vN5CT1sa1CP7Hx0Ig0CT0WPBkE0Bx0Tb0Ib2dY0hU1Fa2k51cY2yJ7aJDYq9Zs2gf0QR6DT0Lw3Ab4ym",
    "Aq80s9H9z0TqFHG0pMFzT0lP1oQ0pR1lU5410eo0AY4kr1Xu8Ls0QX01g1EX3Og3Vb1CZ9Io0hV5gJ0KZ8af4uN8AD",
    "0mvDvg1Ta6JG0YX0Ck3iN4wm9GA1a07qK1E708248g3Ru3vu5iv4F7BMz1gX2375ii2k73PQ24r9hm18g1cI0cI15d",
    "2Yv52t6vI4WxBWS6lY0pa7uf1BdBep4Fm3SN0iW2Ev6J08iK44l2B19cg2ns3HQ3VZ0Np1TnEGr47h0Qj0hP1yV3M1",
    "4xV00i1bQ1gX8yn7Yz4Sw1RZ1hl0ArCdX4bq2Cy3I64ELD5m5dV88F1gb5BP4BA3Ks22F3BiCrf1yw2Qk70n4uD0Gn",
    "3VO3IE7Jy1SR2sL0RB114Ds1CTt4Tx50T6zq5UQ0uq02H0eD1yn0Lj4fI0T90xg0L8CPNILf0jxLUI0Hh2rX3hU6L1",
    "8oh0Zv5cc0pL1tN52z7En5B9AqAB6l5ta0WW0nq2bj0NA4Yg8GN2KS53h8Io3Ep8O93TL2vd4D3CAa0vd05y49r14k",
    "80i3rI0wZ37b0Zq1N32jU2vp1ewGFy5ZK4p24rN05705S2vp1mg1Fk1Ib4VC76Y1at3M70cZ5bD1Aa0Sh0sl1Nz1TL",
    "51aIAe36Z6Vz1faC8g0rC2Az2niCQR2os0rW25o71M2E90y865I2Gq1q01XG9Jc0lK2jhITK02W3bH1833Pg11U3ti",
    "7ZG6QU17VAn51WT1OP00M0dk1B30AB2I67vc1v71Gv5Zr3QN3aS1537Ve0IO8Sf4IH0KN4VK0L54wp0wz0TP2PT6lm",
    "6CR4yJ2Tk7rc6e86iL9iA2tI3fz1lt07Z2VL3HK35W0cF1gNGNV1dH2or13A2yH57533H0z02Bo1IE0ywESdGDt05C",
    "1Le0hm2W60gG0jB5eW48C32y0ic9Qb4GH1f00jo0U1Ezq3Wi0BR0YH58j1SaCfO0fW3opQJK8qp1Xi4N22YW11P1qj",
    "1mn3rA2qZ2aPNjo43F4cK2wX45W0ap5NN7W4CHB1G11LW32Z0DF3VE3UV0pB0mR5cX5YM0Ju2M80uv4wl98E6EX8aE",
    "BIl2wFIzf05J0Lx7Oe0ng45T0Oi3Dj0SEAnu4g82B10At5570ri4F00n21ti4Pl0110EL5Ws04u3hd8CE0H63kz2J1",
    "AP302Y4FV2h10Gm4DW4GE1CV1sY4U428B2cm7Lu3fi0CZ0jMO5K393DwW2tCAnP2l6AR09D016w1Jd7Jj4tX0mt50w",
    "Ia50kk4yL0eX9le35nGDU2mgHjO7KH2zT6eu0Gh1KS3reBGq71Y2pr2uS1kG0De2cpA2l0Yl0xo0Lc3qG1kr2hv7ao",
    "9En3F57Qj1tH2CE4UB2sX3p60ME1O49Ul3WT0hp1ew7IY6f88z20oz0ot0hyEPI4cQA1836r1NA1lp00m3f70ZJ6y1",
    "31y0Tz49n40432tCbv2yv34U2OF1wZ2nk7pIFzS1py4hv0Ya3Z55kh09ILKT1Va5EE3MP0tTJir3DM08P0TG1ZI4xW",
    "2yp1SedFL0AO1F3Nn43Kg7LR9e74W71zU8WaER11yZ07n13a2mN7s22EN2WV0wO1LP0g662Y2J70yrA5x0Nz9WU4F2",
    "0IG34h3XKAav0Tb0gp2ix0qc06K1pw6cE1tP1p92D96mN6gT64l3z20Jm2I82ZX9PZ2s8Dvh1FOE6a0YT0GsDCo7Jt",
    "0fz24N2jC0Gp6Nl6DV0g21cZ1Es6zV0oT4TO1Hb89I1kg4lk85c4Vx0mcCtA3kI0jzC7H3CC39QP521DI68f2PeFQT",
    "4JF5kuEP6Cz62bK1tZGh44xS8HB0OO17w5Ff0ai9SH2Y44N35f86Yf2al0uX2MR0pm0UB8EM7ayIq00dT0cZ4NQ05t",
    "BEk5XZ06n0CI0Vn2iL5777XD2qz0Gv5hg3Zb0dC02Y1xb1TX6oL1KlDxS6Wb1Xp0Jp1VY17M15K1qz1b20Md1xH12l",
    "0Uk1Rq0Zp2cc82x5YR28Q4AnAGt7Si5f02c41no2g5CYh1q62Z51p33kc4egOff8NLBK80xV1657rA06b04c2RD58x",
    "2ci2GG0LZ1QZ0yuDpdAQ44LR0IM8Jt0RM9JK0aH54E5c85G32Ay3Wi0A0Hhm3Ee6CR6hn5GW20y1801TF50s6sq2J2",
    "15e9lZ6G18bFBCF3Dd4cv0u76AR2EE3l10Nm6nY25j05s1b90o15ox5bC0hG4jm79s1iV6IP1vF1he6Uf5I45Or2Y0",
    "2bU2PiHVi21l9Wc7yj2me6C652V1LB3eg3qFAVw5Mu0hF1407HM1Rs5KR03ODwY4zJ65t27Z7gz0dq3XZ4D13yP0KE",
    "3w755rE04GN04uv2de2bU6ktMLi2Z50fD2p833U0Dz0CrDKk4S7Cph04x1HN3nH3Zg7XP00CAO11u60pI0ES2fzCBn",
    "1lj6id08644B05I1ad5Y30px6E76nx1Vu4uN0ax5417EJ2el2oF14b1u204E03j2CU6PW02c6eQ1kw37d9LVMjh8Qk",
    "3PD0Fc2t52Wm0RHI550hd5BT37u13Z2UK2JV0Yu0Dc5G61lCENV2SeFE638rDZy3MX0mG6ig1fb4ex5H63cq23D0hR",
    "5GJ0Dh2PD15t6eO4SY03H6f3FC1IDQ0E51RS5p64In69a4ZN4c00VO24H0rB0Mm5ne9sA2ZL02a4A64pIETD3VF2aT",
    "1Qc51j3eE9se1QAHZ57fp50B1JC3qK5Gq17P1P02ev9VX7WB92eTFW0uh4tEKdi73L5BQ69wDf69p23JK1BB0fR3Bi",
    "0bz4Hz81P1e40Rt6hL3ITDAD92B1pL6Qu6qa5ch10k1S35mL1OV4zo2co0M8Keq0Aq01d6qh5JT2teBR02LJ2Es0zm",
    "1n01SS0q3IXN0Vj1HB0pe5m70eA5bN0Oz0vbNl72FZ1no5c52z90h80uAIHN0rb6LZ0q12M52S70a240V1zF3Ce5W0",
    "0gD9Ao2H31No2V22s81Zt3dp3dg0dj4VL5u970C1rI3Ks3fQL0U4hN0ME0Qa4jy80M1wD02g3jv5lH6EZ0Fk4ajF2k",
    "0MG1IO1WV27N15I0xSHrm1Tw2cl01866DI9D1Vq6852JY1Xn4su1W257b0Bl0y01k90ZB16r1R67hO0uN8c62gk5bB",
    "9T89G62V54Hh6Qr4pP1H53kM34745u45n5dL03k3tM4cI29G78456N3dO2Bo1Ak8Lm0Qa5Qp1OE4ZU6UR6zg5tWIDZ",
    "ANb0AM3Ns6WGPXs4gn0rv0eS2AQ4El56p3vU5lp2gV9JQ0OR1Xa4Ry5DI5zF5vh1SHLyk7Y7EgM6GC0xoBAz9dC4T9",
    "7Hi1iF00T1164wi2ZC2iN0Ev0JY1ke0Fw2eM2myEYI3fv0XZAE39Pq6J70QO8wQ0ZC1o32w22at3d10lA3621nhG9Z",
    "6jq2VH21p8Nj4vK0gj4Hw5OH2BH7bYAk48A53mH0gJ6Jl0DE4aC6SN9yi1s85gLFomC9g1XC1Rz2tO0qX0Z21u09VI",
    "1Fq2hZ3aY0xM31e0kW2u174v64E1yQ03R1LBCJf18j0Cy2Vw0f01at4IHHyH3yv1ms4KG2YS17G8N41Eh0uU1Ts2uu",
    "1Js0F28rdAkb6JxNZX68n1Ku3LJ3dz6Jf0ac2Gz4Yt5Xi4Eb1GBEzW2yb1NH2DW4TF4Zk2Un2cY0xo1VE3KI0bG2RO",
    "03J5Rr1eW1DcBR88TT1Y90pR2mi1cm42t26jBpc16zHuB11f5jz9sj4Jh3Jn5Xn2S17wB3ZP3Z118S38r18W1dh60z",
    "56b4T3Bw128I14y18E1QT4RP11L76SGtH0CF56iKwP4i40XX9dk2ii4az9YX0Zt2s81fO1pW1SI4Oj4xe0fq6G42jE",
    "26b7K41wY1EE0ai1eU21TBbMB89C9g1nA1CL8YV0qE3CRIdB4yC3Jf2Yb1FW6BQ11b1gkIptCi03FT2D35z15qO59S",
    "0ba3Eb1VR1Yw0qw0Cg4Zg5Yk21s1hz2Dj4RG6nY1m24jS2AJ3Jq9PE00L0Nv4cH1sG76h34l0hF8NWCNu2CZ1Lb5fg",
    "0rY5v2AhB82R09S3813CJ0oB5ir40a4wt40M3xDARJ09A9nZ0ad8D8C1v7tB65I1B44js177LX14Q0Fhg0LY16H2Cd",
    "0Ws28Z0ZY99NBp21uU1WC0764Xn9K10Em2wf3Pj6XB5tf5Wo1RP7lp0laACO0E82Yw0G69tv6Ql4d03M86Ad2in2aQ",
    "1KD3Fs7cq2aW26a1nd45q7ej3L42D08Fn0jV3NL2Zi2aC04CBFV1U70FG7EiC0H62L7nY3Gx3Ma3Lb1Vp5CR3rG2YZ",
    "3XU8fT5aJ2MxEHr78t1tB1Sp0ea5gs18X4TF0l529A8fC2mdG1rLre0wh5SY1YI4P66Te32d1yB8Q93Xl617Bcw0qE",
    "16645e1Xb32L2Xa3zk0n00SJ6Xo07o86u7lnCBnJub0YS8BE4HG0r53maC8M63N03n4vM7Uc3IF8a33s709F45P2Cy",
    "62W2NSAFl7pB5Kc9Gr2RI0vSIBW1DI14N1ea1xk1DH2eqGFU1Hc4Qd4cF03G3l20CX1y2299B6x36M7ZvBqL4VP2y4",
    "1nH3Qz8rK2g60K47zU0mK4HU04U4Na0La1AW9HY1PTABh1DLAnj0iG1ZU28v75w2rf24J4C15ej0fd2tU0Zu1wu72S",
    "1yY2wv0I60TR1Y11Rt0jC0Ya2Lb1Ph6QR92Q4Gi0Fe8mO6m30a30ky5vf5QZ0Gh26o12wID00UR0zp8go1JC1Gg2HD",
    "2EW0Rz0XR2LL1Su0lF3Sv9C36LI2lP4h92lZ1cC68n8NK1Cy1JLBOj2u76ub0gc5e22fn0Yk4Wd9J40q9C0O0gw5Cc",
    "7nRCyK3Y05dh2Pc1n63Pr0hC6Hp9TpADY19e0Y50Tz0SD1P92TMD7828A41k1mZ4v94LQ3ZC0Ik4IG54IAbN5A12En",
    "5gF0IX2hC4Rp0qvEfR1DS3mA0JL3ae3Ws4euAPd7rF7rV86rAWR64Q0QY2Lf2Y00db0Pi4AMAXC2VB2xV3Ug72p1HJ",
    "Bhv18a4uQ7Ft1ux3X93XG13I1oqAqc1zq0ib3lu2Ze0A21P67Bp4EO6La0Za5Ve5T61Tx2l115e0E33sM3iv9RC3yH",
    "67V2Mr2HTFQf59n2st22f3Mi1DM3O4C62BFV62q2qC2K92As5BT0wA3tt5di1T40oU1PC06K18V04b33E2Xt0FA0KH",
    "7Ve2Xx1LqAYI5DT06G0L62Le2UJD9m0cO3H120G0xUDRT3ELC4C5Qd4JN0dS00p1DJ0zs0Oe9fW51E64O0MD12f6z7",
    "8yc6af2bk2NM6MB62S5eP1ni89I1ZXIL40Gb3ps2RN26LAnE2c99H31Gz6dT1Kk0jE3HY01K02UHUu4ab7IF80t0Vc",
    "4SS2HW2YU0Ve2n61Wt3D60ti16260072b3e71xz2J4APV4aA9mw2tG37z7fr2cX17X0Hz5Ut4AF3v04Ic1cZ2Go1Em",
    "3rL6oe44f2yK3HM1ju0Gk1aF7bh2133NX17P7Dj0CU6gV8Rz0bSL1n38R3OA2e13LFCw03oK5JQ1pP8jU1nt2ku1EQ",
    "7sABYn0eI8AoGcY0Hb8Eb2AE6cg1XR1Yy2s209J4PWAGS0eK6Zd9HG08g3Jr3WP04Y2fe7mk5ZE26D3od0dn3YL1pi",
    "09I3F12YR3h22hm2Bx3s61T07GeAXP33N1EL5ZV5CL7X13bX3w02m96OGAS615R4tw24e2nJ18M4Cf1D08UV1Cl2b6",
    "LtI9sN3NO0SQ6EZ0fi7dh2Dc3G22M51Ic1KJ2AD0OS0TuMlb1bA0ak14Q5Jk1711nY2nv8rb0s42s89ze5o32JQ053",
    "1iR1sF0M97Tw7f772L23R3wg0JD4SP1cS0VHECN5fJ0Fh3g30MX7fo2Ee4hU7NdA321mz3fj0CW17b7274CU05H2P7",
    "67jBMW0QE6iQ4Z40ggFxN4UJ1190uD84w32C0Mo1Lp0MM0US0ja5JH6rG24T1yK1QV2ECEE92ImBZH37Y3XVEcx4Vm",
    "2bg2X1B0V9Ir9YrMTA0Qv9ey0cu6iD7oi4kw6rL4ZL2J21Px9jN48e17nB4G7ja35T9Zl8LN9T921f34c4wmB120gb",
    "4Ar4272cE1UF0if0VD2kZ6RU0jy2TFBNZ70d0Av371CVwJGs0VN6aECikAeA1MM41L6Ty2Q40Ot0ny4OE2N50MR8M0",
    "0KA05F2qA250BXt6KH1WR3VS2sC0AY0CD0Gh0f76qA92u5SH02O29OJA30TI5KS1Gm0DE8yS25I1u26MH1Vt38y91U",
    "3Pe1FB1Es1qS0IDAJvCgA17U6y55km8Cp6PaEFQ1pX3cK4EJ1D74XGQAC41I5kh0iWApQ2dA41b0r12kI60L2JWI8a",
    "1G34w32by00WF0L1c85B303o3RR3gx0cd7Va0Nt7GH4NH5tw77U18G2Km1Ns8zm0a49wi1OS1gI39h0ss2Fv0Ov1Yw",
    "9XMKUk0iLD4R5Gy03Y0Jn3Ch1IE2kH11F783IsZ0Lh0gLIBM0gw1cf0Ne2Kr0hg3St1H60WD5JZ5Ff2Cp1l35hI7PS",
    "2P305y1ec5lC09k7QiA922K40zX6Ry4Tn6c96502FR7eJ7Tm4tT1NY0cK5On14K1jf2jV16N7lS0vB1Vg0Wz2do9ow",
    "1jDCH50p97CD4oK6XF1wf7MVBIs2z50Gx1l93NpI5e0Cg0zQ15z20yAiV2nI4MS5Qk23m75D0AO65iBN7CRV2TgBXn",
    "1IhBCH1Sk5K80Pg2Su0P76108Yk2mC19U0L30FE7040oP29k3sb0pI07G3mZ0Hq1Ub2PN0E816u1k75oN86I4ER0pT",
    "2iG0oH0hD5Jm39Q2ZL3jH7hi0WfBgz0kF8Rq14i9FV4M4HNK48dDKc1Cy0a45B10Yx0dX4Ty48SBAp1bz7HS17t4Im",
    "FJ4G7B3CRJFY5WnBsm3DH0kp7Co0gq0mLMFc2lP0pJ1Xx0xo2K55g35E131J6ay3iT0on33i5if1II38U1OX1167F2",
    "5l5KWF3F52lQ2eq3ql2y7HaQAOo2EV2aO2EG35f0Wd0BE0cV31B0Jj1Yi6rR0dB3ut4T72r8BBv2yW8phFju0K12Qn",
    "40p1os6W07XM5wc1dH2EJ4029rh2la63s4xG7Nc2Kz1PU3AgCPh73h3l14Xb1ll2sQ8KH3UX1KjIhQ3mX0Yi0VCDYB",
    "0QT0Oo0pv2Ov6D224E0NwCGZ6EX13B4RK0gx2FQ73R0XF4Cj0DM3qL7eQ8NA7549eY2Zv5U50f50UJ1Sp0B709a0MX",
    "DQk3ai0Wj01B2kG1oN2Rs19A0bz2wt2YD0ij1gU2gkBbo8Z54IU3Jw0cT0hz8ht3ZV3JS8vCDnT0SW0Uu1OG11QA7v",
    "4sJ2lF49T5Nt4Dv4Wa2jWCOR5cU4Nj0g917Z6gk0nR0f72z20PG1g884t1Si0y04Ka0At17P74F0pC3oq08Z1bf1FU",
    "1NA0za0cv3Tk2fu28T8YH06N09e1JI3bqILg0Gu2Vd5FF1Wa9NcAxg8bB0St19G3BZ18y0xH0Lp8W60AzEjW2bA12v",
    "8ST3zH3Og4K53881Sd0xb6r30ai0qi4U12Uf5kk1CS2Vu0Zs2WR14L5P6AdJ0Xi0ML28p24g5rA7sd67zJ5n0xuA3E",
    "1HM2UI4Bv1qH7xu2X55wS5kp1vnCgS4jf3oB1uB19T22U1QT92Y5Ia0eU2Xx2BE2OW3wU3Wc5B17tk0YY0nJ3aA07s",
    "2sa0FB1Jw15h1b10Gp8PR0cp16R0AP1C71JE2jq28t5zN6XOBna3m334a0Mh0q41Ta1WE0BA7VfAnG0Xj2tm5f73JV",
    "1MO8xF6aI0v24JjF3F3yL1lL0Ft80w5Ja2SzBLm6J24plFf805SA5P0bN0VG4NgLOj2A8ELn3Og3Vb3pO7052Hs2oT",
    "AmM4ay1Gz2kM50S4z20yk2FO3g71NO2FLExv10b7kA0CE0QQ4gh0Au30z0312IF0JM08z2Ig27139w2kV2W44OG5ax",
    "0A88hJ2Tl2B22n875WBAY4kl57I1QP1g92VeB610AF5IN0Ie1rI8Eg8w72h42jK1PDAan1N43my5mXKWe0ti2D503b",
    "4Ne0uD5B50Wg1Ts75w74W24q2qw1lz2nN0aN1348tw1Jj2CV1na7jI6of0yZ0Q72qt0bz7Vf6ZQ0yv18m3pRJMh5PB",
    "14B83lDok0YT6VvCq385i3oo0jt4UQ0sP6Oq4Pl4AK13C3051Wa1L86l44FF1ir4fK1cJ1W6AkU0Rq1FP0JI1NA1eZ",
    "3ep8sT2FD7Yo35g08s2T67696Kv0LMCQA0oAHOC0LP5oJCSk1Qu1yB8xq30k53i6yz8Gu3smAAI33R7aU4ED0Ox0w5",
    "4sr9LG1ly3y41i63qV28e13K5MVEcr03h0CZNGp1hV0f82tc0NU0yQ2sZ3Z0Eog1oe1RT0PS4SHDma5lW0Va1Qy0hS",
    "3Ry0D500i0t55zg1LA08dBKG3E92YR06u18B6uE1qf0oM08d9wF2G43nG6Z46pp5TU6Uv3Ow2LB5aD21b3P21dZ4w5",
    "3kK4032egDqE3m1ANk68Y0CK8RR2FH0ZT3KF5CA45p27r2Es2ZY10m4Hn1mP47Z5fp6gv1yU3vfEM17WK0WY3CV79t",
    "5g20Lx6DZ1hu01f01SFGdJcGGVX1ky2p06GX8oLA921zr0O45NT2or0Ar0sJ8HL2rI1Yk1c47nU0348tF3D8Dh53yO",
    "0gGB2j3Ek9mkDpH2Yi8vW0BRCxb0mN3fZAec6Io7yE0Ot4WL1Dv28J9zk22p3Bs25e2s81ke29u2nG9o73y81g01BW",
    "3tKIwn78u2pb3W17in3jv2Rp5Hj6Om1IS3Tx0y84VO9z98mK4iX2Jg0hR3nYCle1412oJ2Ca6Wd1Y20sp4ou9dD4D6",
    "1ye20a2bG11qHtO1Kt1lv9nn0oE0wa1lP35HBBB45X06y3CZ4Qf0pB5dQ3P69W03Dl60i68H4QU6Kk3dw1LL0Ua4uz",
    "2jS7xC195A6K2ky4ey5331sn33MBXq1pC4Lt9G26tV2j709G01D3qj2rd2228hb2JA17d5vD3UFBIu2oJ3IU8sy9MP",
    "9pb3CR42J1OM9bI0Zj23O2FX8Qe76U0vE0Sz7Dy9wv1k60hh7cJ0lsBqg0xo21j2H844h5JF2Yf30m5nq1RW0vS1An",
    "7YE2oc0hh24e7Ee8wS1uL9TB0Hu04r1z30gS2NT18q2CK2Qc05N1wpGLs1X064G7AqAEE1QY4Sm1bQ36LKcB02N13R",
    "1PG5ss0iw0aADJ60GZDwQ0mT14302u8ER4Xy73NA3w0zO95w2NTHez6j6CO25GD2CI0vx6a04ML2SC47C8Qr2vN0pD",
    "BFB3Z80sB1Ur6nU0Eb61k7tjDgkRJu4p54DU2kq4H61Pe36K2z06n90wOCXD5YoOPj2404zF4i65Vp8MK0Gb2pu4J4",
    "AyA0E53G04m02UY9hq4Er26J06tLcD2Uz18BB7f1799uR5Jk6OL0G72Sp72o05a19g1ns9fm1ma0BP1FL1AC89I1kg",
    "CFa4eE1G70zd0ME0ml4mx5Bv0GG3526Hq3Cd1qZ5x01wO198E6l05J4qr0Lq4S32RW4Zw0Je0LA1v3O3T9nf3os27D",
    "1V10ju6WE1L53fQ3Qd4EH8YWC9S2Qy1Qn1ll7ue0ai1qU8lm2Lg89IDLg0Fw5ok0kN08eMFc04v1qC4Vc4pSFBR1sW",
    "41Z0T89VW6GiBucCKz0x671A2IG0ya0ye5Xx4UY2wJ4g81PV0oe2wc0FpDbO3cT2gk1pl4Ka46Y5IH0Il1rgAkE20j",
    "0cd2z11820nB2cTSUg0rb2e95cX3kf9l807q6M83HY2AQ1Iq4GY4gh2cQ5Dx35u2cW7qN0Pl5vR1W31UC4jr1Jy2S4",
    "3pd3mc2DT2R0HCv5G51bM0tx16n3H00BmIyHI6m0SJ2WY2jy5oG3op24Z13M24B1Wm09y3Og3VbGPY1OZ2wU11W9x2",
    "3hI3ku1hy9h631B0pS08b5FP0uL0mj0yl3m841Y0WJ4lK2lb1SC1Z06jT2d11io2MhDHw4F72SK0rq0Ca7tV1dH1TR",
    "1cuJyZ11616P0Ow1PBCFu2cf3GR0212C92xh5rz03408S4Sn7Uq25B1bo0ss3Xs2Bz3Jg8qH1VgFM176fEgq1Bc2ed",
    "7Fk2aUAch0lb5pZ1oy1L57043xt4rd4OD19444L1LX74B2B35364FK7uB1NV5sl1Ek1HP0OW32n4Z1AEa8cN0sA2NR",
    "55B4z81q61Ng2hp76d3a627B0QG1VF2uR88z2fb0Dq19NHNW2X53Ug0Go1xl1Om2ut3p73129Sr0Nr52y0Tu3Ak04I",
    "0Kf0gd9sZJh13b31af1RJ6kuATJ4fq0jg2ip4Ma2ls1iy3pU1BdJFK1o062l0pB1nZ0v9EMf09e8Uh3wS0BE2wt6xW",
    "2n31BdKp62KB0fO0Ls0ux37q3Z32666TG0Ug5BN4ju1RX3V66Ur1UV3Ar0QZ23YCdr1LM0qR2kN3L00Ja7Eg1Kh0qA",
    "5yZ13708e6Ja2iD3331eF0l63kd3jx5Ff01n09T4nxAUn3fI2Cu4Vt35B92T2jHGss4OL1RW4aW52dC5f3kk4Gp4lh",
    "3XN1uU3Wy6Ri1Oc5jl29C44f20W5N261E6Km2ngA3W2EM0vg0gU03v0321512Xq26k1gE2DDCQt0Fj2DU2hG4d52l1",
    "0h908EC4K10I1Gm0i36lx0HNHZICkw6tx4Ad1jl197EAJ6vN3Cz1tMBtK9fZ3Aq2zx6aA16s2eX6iiAPf48L38Y16z",
    "0MT1JA0MW2Tg3cF65s2teCBu17s1aA03M23f45V2BA9xE5cf1UX2IG3Md2e27bQ1xV0VQADfAQl8lF0uDBP03y50bH",
    "3bv5Vi7zY3qn7742MF0Us0vqBHj5PP0gz1o32s8Jub42Q3fRBYO0vK06X1T81vAFJg1b70SA2L53KfEmz72v74J1gm",
    "0r24qd1qL7Uf1Lx9tcDML32u67y0Ug3lh6mM79w3NwCsW2l476l4rH5PU2Hm13S0CF1Ao2Ed4rT2gk46T3RR0OiBYl",
    "63JC8K2F91QV4XJ0IS0D70PX4KQ2FO15a3kX3nT2JK4se0YX34T0TJ0kb2k80Gd0MW8om13y1LZ0qk1Df3Tk3WJ4pT",
    "0Qa94m41GBUB1zv31q09U10i04A2gw3uT548BaY0P48Q58oc64T2eII7g8Mp1Pa4h456y5MK6ISARl2QO2dp9fQ6Iv",
    "5EH0N6EyN4jf1N90uk2OI5NJ5xK1ry3ZR0Qk0nK0YA0xoRCK0Z4CUA3Fc4L43xMBXY3ZZ1ew27f1hv0z29948se0OB",
    "2Xu7FTOQN34bBtu1MZ9sh1vY20R0g74sW4VA0lJ2K48m708v5a8DsR8qy8pa1Wm3Gi61SGPW0Wu05K2rZ6u24lL12Y",
    "2fY1kB3fS0CE47r1gU6Xe2v63YD3zq9RS0Gv8P88wt0083dv0mH1ZaBtB6jB3MR6572mD4T92by2M11JwBKZ5q733c",
    "2xH0An0u65kz7lw0RFUQN8hp27P5f03vQ1ah2F70hm2pA3NL7q3A2J9ja8yE7Oc0BS9RM0xo0GOC3x12z0IA2ZyAJd",
    "2D87Nq2au4zh1mT0Nz0AU1n64C8EZD12U4clGNz0QG1Br8NI2j21Ce1d26F81Ar0Zp2gp2Wr2aA9ZT0di08u1eO3tf",
    "2os2Cz51X1th0Ph6mr1Iy2W20y20FE66O1QT4RP9lr0baBDn1SE3Vf1a32Ar2kc4HH7wy6yc1vp4ZN4qi5F5HOk6Qs",
    "3691VH39V1Fg6fN5YM75b2cqApTC0gG2q1Zg2yr0xl5yT8JH0Qu2iO1A3ISo8Ed3Z70Vn94zACT2Mw00z1EnAiH7QF",
    "Cwa5ah0vu0S40ww5TYAf1HkI2AJ7ma6ss2qD0Dw9VC1oh1R4DNWAhZ1xEX6r0eM7L044v1JP2Qf6Wa5Nm3VD8GX3Ny",
    "4tED3E1B8DP20sK3MI1of3si1yK2uE1sD1Jm1V514M8qL3gu0uO5Wy0tw9t604Q8XM3qm4Dy1CP2aL1he7vR31Y2b5",
    "4et1cM0Tk96v1Vj1MJ1q87kY6yj1cn5xC0A81Ae5VP0Bt4LV1cJ0b62Sk2p212Q2zs0Qh0Kq22r3fN19vCdq3vg2fk",
    "6Cd2Rf3CD48R7b82EA4zF41m2OK00X3eb36c59BFce4eLKNNBpA0811rN1Dt1zu2Q86mo0I11PA3MS1hI4N741i16F",
    "Aal4302gC6nf3HZ7gz8Iw0iN3fk0xR4OlDnS0D677u6XZ2kq9YX0I41JxCN820TBhg8Bt78x53634sF8M0U8X2z4TQ",
    "06r1NGCBn9D61hL1RN0IJ2nZ1mD06Z2a95SH0lT7460aBBpr2uO7E43xb3vzC7g8M90cE3TB7idAy13F02MN3ll0C4",
    "9uJ5fo57r1mn59l0ET0IE2SR9FW2ca06b2lX0zz2YBBdR4j01CH2ZS0lQ3BT3xZ2s44N5B5L1ad0An4QZD0t24p2Cw",
    "0N84rW0Zr2Xf0HC5g33BH30A2PD11e5JN2xR6Hs0WE0yX3Rg0zT4xlCEJ2WaFSw11T5Ln0pD24J9Zv4Pq1cf7BG0BR",
    "0YH0uG4ET2uf1N12qV3eh4FfFS82CN1aB3oK6q60VC9tL0PF7p20NoJg40UA0zc0Mh1571YT4QZ37119L1jR1y30G6",
    "0AF2zcJbPAZp8Zh2lG2vO0jU7rB5zk1t99ml3IF2ak37T6TeTqD0d67t60gy79w0Kg6Xy4jL1eH0hC5rp6TE2B33Ja",
    "4OB4jK5aW1gV5w83YG0pG3D41ZW8gh4of8Ot1ye11E1pjFlOCId35W4sX7Gb3Lf1Ci00k3Zl0VkBj32GX53W9IJ5IG",
    "Ew51fB8Cf2AE7Ku5JZ7No23rHKF6pT1bS3X017u5qJ3mj3Ep5Ff3jh0Vq2MI2w90CrDzR2mA1QB00B7vH33p0dcD14",
    "9Ib0ge5WG0ME1v83Uj3ZB0Sa5fV3mbBLg27T78H2E94Kt0wP0h19IG0DN3060NM1Nl0DJ6trBCT8ma07m2ouA0D3uX",
    "7j62D91JQ3Y10fp2Xa4182te2Xx2Wv09Y5740I03ob00m4zc0JL2gk5bB4kQ3NYF420gG2eg5n60j63X33zN3Qc3MJ",
    "1bF0FK9XY0iA7nU0Fw0AcAQ720d99aCRJ02t4Cz57g4lk3G42nI0Pa3U42Ng89IJub4B01THQlJASMDKEA4R7jGD1D",
    "4GjEAG42h6c16kX4Pb2oTG7r5YW23W2XN1dj7Mh7Qr3bt1SX0eYDKP0O013E0vn3IY0YT3RE7rj1JX0uk2AZ0018om",
    "7sM42nAlV0P64yk2qUC892TG4XY1iv3Qd2TI32X11M0oX43Z0YX0kZ2Qh0y6A1e0vV2TR0ja2CW1Dk2hQ1kV2GH2ku",
    "96a6Wr8mq2yf2Pa2nu4lW8so07C00g2IB3wUWGu89C2Bd2CM6Jj2uR0qL24t0rQCzd2Ug4QI2211k950C0kI386MrH",
    "Eks3GN7Tn26R0mb3yv5v22kY4HG38Y0Rr3R71ob1nU2RI3161sq4Cj1GY8c36Ef0Co3EW259AKt5jE5pX6IB5HW3q2",
    "34F9Ve3bhANZ7cN04f4eX3bg4SM42A5ev0xoCCX1An1eW1Dc05X4hR1EODtF2Q52pF2Sj20H3jG3vr2my05d9852TV",
    "1vw03t8AA8XV4RYD311B86qK0Lf0j91Mo57G0NJ04U6ne0fz3KHGin7KF0YP2qP0md45w3xn0Jx42E6Hw3WH0750Vr",
    "2Uq2DA3Sj1fM0ae0Bs19A8WI1sa4Zg7EJ0uhA3E1k44Ev5CH5hM7bP6cq3yj5lqCfo2bn1pl0J5AOU0GZ8V14Rb1HX",
    "4lX1Ce8345dS0JVEGs2Da9Rm25j9VP3cO0UB1UG2V4Ao419E02W0kq0vu3iz3zx5DK1fd4E067i4F43HG1HK8cJ7a0",
    "1e209c2Qo4Kh51Q8c43Xx2430HF4RG3weBWh2YhAAN50X3gP8XU52V4Pk8ISCFD0oiAvo91v5Pd4Sj2fm9jR2v375X",
    "0Vy2ni7QzPSr40E6H617B0Dz4Al3L5AOt296C7u3WiDPvA9R0Aj1sC1nP5B72s23oL38y0SjBFp5352Yj2Q60L33Y3",
    "4X12Qs0q87jqGst0PrGby3k51Te4Eg3fQ4Zm5Ou0Qb3ho0Rg5Kv4fO0mM0DH86k0Ze5v55DD0Fx2jF4Eg15U2E90jc",
    "0oJSxLBI2P2f9Gp5Bt6JNAMm0bgE8K2ck5932zP3Ph6lq3uI1UR1gH43f2p0G9N1AR2hK1i580X14bFgAFiH4Rj68M",
    "1gi7do1LZ1bh0Jx2vi0Pm2Ty0cd2lE0ck0Ud1ij09C3aY0rX0wi19R3Fu6LT0wF3fH0xe1vT0Ha3l25WM0Nv0yU0rU",
    "6ZG0Vq48f4rM2bb2wT1mNJub8Qe8ItEc55WZ07c3SF0NR8SE36NBpf3FTIpV40v1uZ4SW3KT2Vf0cB6Ys0Zx8bc0U0",
    "DPF0h11yh0Ja3Ik3s77WT4A63j49ze1Dx6lN2o405O18p2Tt5dg3ET0jM7iO1HZ9pKChj03s2KE6TEAe63os1dm1YN",
    "9fS5734DT8nR1cT0JJ18632V1wBAl34fc2SE2l62hJ7Xz0P45gJ1B60nv1uL0as9No6Ic3pD96K7T57D56DM6Rx2rs",
    "3BR6Vs7sR2S14ANF2R2gDEHn0U59Dm7LG0Ep1z64JaETc0dtEIq3CREXB9Po3Gr2c620Z0aF2lP1Sy6Wa36B3Qs1gh",
    "AKp9Zd0gtERzAek7CC0Hg8Y3Ijo53CC8z68V4Qf09D0Oo0MZ1vt3Uc8miFHQ00x0ygGLK4l86ML15U6DL2k8Nna3PR",
    "2gC3DI17YCac2Fr01K2Ra0aA2DP3iR2JQ2zw11S0DJ00N0Q52GI0cr3761ij1cE0bA1s02sm43F5NuGug3Ps05l0QG",
    "0Zb3b42Y30Qf1kc2XF1Zt1Fc0APDKN0XH1p11E22xT4e702m0lL2Wl1f03SS3qb2Nl67c6LQ1SZ3uE3v63JX3U2APC",
    "0Wl1Yc4xX2hn0qI66q5hN3RU04v1dO0Wu4VE4TU2kE0dq37I0ec0Qi4CjB761Ye4vw3NMBLF2tC8m025N0KB0dF0Vi",
    "08F7Pq7Ft1pJ12X3kY1RP2MS0Vr99b2gk4f768s0P22950eRG981kf0ii5wXNOX5TA0Ph75d3Cl53N0vF1Ei2E68sf",
    "8JD1u51ISLlt2En1ni7Bl0xX0efCXb6iL0Gb0W55MW7Hd2KA1fD4dMDmm18j7cq3kCAAf1v66iu25N9DCABl1yc0Mi",
    "6cA1Iz0yG2YM0DX4zr05V0y15NF2qRElS1Yc7dJ0bG3lU9IR2Om0Zo2Lt4sa0ai0as4pu2t55GH5ff7cR0wP3MG4d3",
    "2Yk2jc4R22wv3Tu1ei1AE0l00d56Jh5xI4eR0x50WWEYA9WX28Z3b11RA1JSCiC1O30JE4lg9JN6h83Zf4cs0Lh1z9",
    "1QT31y7P31W432X2190Wo1lP3L8BeC0T8Cxd4drFZo1ui8ur3E2R4E2i41cb4oK1Lp2mo4sd3Am1He0Vv1SO5he16P",
    "8xF2BxA7p2Tv0iY53B7Ky0c20iS0Nw0QX8eI4xi5o44Uu4H23M332D4Ca12r0fm1AYASj18I7xf06D7Lk36H0TR2nT",
    "4xJ7p95fG0Wf05X0wd1Yz2iG2Ra16036C4M96uH1VDBc87hG5Ve0Nv7Tt3dk64i75O01a2a76nI6fm3kC2dA0fz1Li",
    "47d51a0G237L2jA3y308QADj1Xj1VW0A32Is3821RO2as6kb5x75Dm1R88Ze2E03dDAcPAoM132GNw0dJ25g4B952V",
    "0ll7Rl1vT8TI0Q60qzAR10Nu03BDVt7jc0Xi0hh0UD0uD23M2C80vb48W49v5aP6xD0vE2eq1iB3S20fS0lC7EQ1Uc",
    "0pn7ps1pT6jU0Ef1Tp1dj9tc6211mP9RA0y39oE1vg4Xi9T715o5pF2im0BM2bh15D6pk59C259FAS8nQ2H5BOH2jf",
    "3Va1Wa8Cn48e64k9hh4uP1HT0JI1t74nR1K40ly0YM20A6kc5c3AY13v32BE2etD2X21x4p80ZOCL51Cw1qw7HV12C",
    "NPl8ci0sF5jW2MM1aA00y9iW0jo0dE21n3xr4v02TP33R0Oi2wC47o2dl5cl0vw01hGJt0WN0Fk5oz0DY4cE3AS28x",
    "0Ko0c9Jdt42L1Md53C3e4GF11oWBut2Xt0Bg6KD1FuA1j1pl5Yc4zq9M90sl30U4ng1vD1sr0VS0KoKpt0w24WgC7C",
    "1NZ5TY5me13l2NR2901TK2SU30H4Vv41809E3Qq19y3RD1Hi9ih12V03o35R0zL0y545x04n5j552l0Rx00w09T2ZF",
    "DCm5Aw4Lx2Ji3fN0mz0QX3TN1jo0qJ0KA0Ob2YV4tkBlFaGM53X4hk2J04sP0eI1Na1Ns6etBll1S74Ki2QOAtx2T5",
    "3p46fQ0u90JrDHW4ay54e01G0ah19U0M13f934P8DZ3yE3Ao6go8pX1DS0Zp2Pj3d73M041q0NQKiO3lo6ov1xk7Yy",
    "1bQ1Vh5QS6rW0VB5DZ0TR1GI1Oy0wy4Qk9EiJlO2Tw7mzAvW40D1eW1Dc8yx7Wy5NH67e5Kq08X2J31Qc2nT22a1j7",
    "0yNIU56Ps2Dg3WF3Bo5Sa5Yl17k00I3oR6Ws1vW6TT2Ft5qP7Ed4Zc02G0jC1BrHT77JS5bdEXVAFc2dT4Lj6pb6oX",
    "4zc0JL0vd1oh1T04Nr6aC4JR2p11e22Rm1as0gG82O3Kq8nU1NG0vK7Nf4Wj2TM1Ui4eh1j706k3U8NA3DIS8N7AjT",
    "3u21SX2YT1U64AJ8Mw8ui5Kq0Ha5Yo9kS12V1vL1Ud2iL8344hq8obFwu05G2iJ3oO3CR91G2oV6O41gm8Qe04V3iq",
    "1wwA1b9Qj2D51oC0GO524AHz1Af2NG0xo0Lc2Cj3OO0nv07009X2x11Vk4Ei0Wo2Hi2xP4hL0uJ1CW7rK02Y0IH3YE",
    "KPI1tIDWV0ed4561vP0vQ1jQ6ds3xl1D51702rNCg36Ky7tc0VM0mQ3f71dq0vd73o0bT1aM5f14gv04z7tu4PN0Vh",
    "3kg2kL0xj2iQ2nk2LR05z0R417O7xI1Te1uj4MG9qr3Oe1ez6uM1dH6EL9rh7BTAAn6931Qj8FJ1fl0jvCDK4CDDDk",
    "EIq8vA4onAs1FCA3lK4o32R05r30B25pE0o001r6O10jB0GV1lj1y34wA37T9b06w122C1fA1pp1B23521pR9Rv15m",
    "BovAR400h6653GA3SN4Ic4IU9QT2g91PR9PR0KT0OpFtR2lM46q4200ei0Vi3Xn3jF5UF6j0DeR8pd3ix2ED9eV0bb",
    "C6E0Ot7pe4bG0qa0x889I9im3X31tb0n71VR2Sd26E2Ds42R3D12vo0FR2ce5V40xd7ei4LU4AZAzT27A3jnRTE06s",
    "6H84jd9fa8tYCGd0J51VJAyP8kJ1xd06a4h13L27Rl0UV2jX6EF47r1zF3Db2gA1v60gB8170ET3rI1Hq34T5MzK8U",
    "0F50df2asA5x4Mt9Wu13v1tJ01PAiR5jM0lLATi4RM3B5B2N4vH1H40GO2vc0d41QT20D3wo8O70eU2Xx3bA1BO1b8",
    "0Ww0Ay5DW1hE3DX2gk0Sw1ue7rD0264ML0UR2Ey0My0zr1bJ8DN1wQ0TE4lj2dG2zt0853gI6UY82326K1qNKpW5In",
    "1N60Md5J81J44sr8xFH7p2n60jo1ACFjkE9i3T62Jh0b54o508LLZ72HMKlc2L80FwDd824f05TELn1Uy1ti3Vb0vB",
    "6ZJ2yR2Rd0Cn8emAnzJe60ba0lo0CG2aq40S25j2y85Lr4no1tf2Mr6EM4bv10o29U0vD3o50Vd5jM3Es5axFFL54S",
    "35510w7ge9w70xC3D26NT96c19d1S44KL3O94N7Bnk5Vf5Rk5Av0QF2KC2GV8a5Can1nUA58FX90MI2rD3jvB5u0Kv",
    "1Q3EB317p4qL05U0zl1qr0A04JG1fR1kN06J4XV0KD0M62Jt0ZxIje06A38eBHP6L01De66P7FH6xh0PG2eDCB71Tn",
    "2WU1pPC0J35v1lj6l66it4et0Lp28E0NfB0JDCf4oA3xU3B44Ds3fiEbg9bM0AFCnP1062hq5lG0gC7Qv0W10Gi7kK",
    "06L1fI24o1eb442BRt0Bf1II6Lj0153XtF3R2gb1Ic20w2Gl3d70BE4xW3Ex0el6yh1GF0Hm0866gX7oa5dq6Yq8Xa",
    "3x506336K4uE4mJ1so3bY07uAKw23w1L401e2K62kF3AL8Be1oF3YZ7qU0ng1deCA62PS22j2Y00Pe0FN7aO2vS0FJ",
    "5StAKO3XwCnGI0v0kp7Mh0Z6FtJ98j8Yq2Au5Rr9yg2E98Au9UyArs1ahJTF4hN5541nS0F275n0lQQ1D1ah3YcA4W",
    "4Ac1ufBbe0BU79t4J214R7Jm0lu0UJ7kL4z61sO8ri1Nj0GC2mS2SE2T82irCCn0p60Ig2nq0mT0wv75x0Yc4pg26t",
    "66j5tp51i1Cu2vd2dp0DzBxo7xp0lR4Tw05d6bm45V5Ro60y3W55LQFPF6F25EK7hC0XqBab0as3IU0fX72ZBh5ApZ",
    "5583Wq3ssBT63y31zZ3t42s83pR2sN9o73Og4iA5XH0M94mR4u5Dy00zfFHF7zZ5TR2f5AjS3NL2aR0Ea3S43u0B2a",
    "9cw1ycAea72j6Se0H528M4IK5tG1Fo5sbCzz8tH6Sc3SS3Gn7IY4dn3Vi8Z81SM2O34KH5XQ4Km72D0PX6xu2ux6sn",
    "0l48VeBsU4MDDiY0Ck14p05G1GaAfN43A4Co9QA2NrEI06Ln0qq3295El0xu00QBA40o80rd4ET45fDWm7GU4uy1RV",
    "4ts6Kx85b16q0Vg4775a31MM8r55N23GQ74Z06k7PzCba1k00o06Fv87c4110fI0IW21j4BSDnt4ii7iT2x74RO7nT",
    "0C10FwOWa1Jz1t16hZ5WqB0VA1e1Z8ASH2Mr6uW1hN0k51e43UU98H3X31bF2nb2Yb2Ae4cB03o1mx5KI6XC1lj0q0",
    "4J56oP3GLWY73xH9693eR28HC3E7OSDW78fU0CP6ot2Gt3bL03i2OM7R93kc1fL2Tq1QqAuN3jP0rO0Lb0Pp0jL27g",
    "2Jm2IHJIC01tCcc7XT1iq5P65Cb6ao3rD7CY1t205L0I54yW6rL3ux1pN7t21jh7D86SD2bj5DA1nP3b763n0w44R0",
    "12z3Lg2WE18y0kG3ETHHN2Kv2Dx07p2lZ0xo0Ze0P4FGkGHR3dA4Yg4100Jv0jC8bW2R429P3Q5CDW0ra2VP3q7MPq",
    "6F81kg18y1XrAFM3bm1by2hA4PZAGi7KF4214sF2EO1QT0C14FO2Z00f01kT3ot2cl0LADFn0Iy4zz23M24h1EH1pJ",
    "2jT0514WV0LY4lI3h82GO5f57IP5Uw2QH3hQ4g11779Ij0Oo0FG17V9LR7M78pL0lR2U28LR8Sb18YFO934E1eb1Qv",
    "7xj0RW2Cw2s311v3MbGT61w67jm0pZ9DHHf71UU6BF3wh8MX3mq5WH4lj6Wb48V4l58dz6TKAkX2gk2Sd3xxBJ13PW",
    "9LR4Tk7kc2fT2UJ1UI4gk9NI2Td4WQ0Hp1wQ2vO8mX2FyEZ11pC2Qb0Oa2HL18O19e0By0Yh0o24351Dq1bA7Qg15d",
    "6QX4ZZ3jd30t3fQ6x23vB3qZ4pZ0En0Yr6BF3p19Rq4Gn1b6EJl16ZE6k68f5ip81h1bO5cd4et7fO6bm1e1FOA0BV",
    "0Wj6CsG3i0Ho2XE1Iz1BXBQmA0g1we3RP7nq2Tn1bi2pb9l70hE61v1rt9Op51j17M3Rp1Mz1re1AV3ah3Ym2PF3RM",
    "2592Ss5p672ZKxI2zR0SN2KF2of3dgChi4475RU6EPFsZ1oV7kF47U8wrASF0HK2poCE84V90n75OW3V73UFBZF10k",
    "3iG1ge2vy61K95v2V41qNRbH0Q1DyD1t06Im3yG07w3EB4Pg9Ip2sy9YN61e4Ka4ez09T1XX6ex0r56r72ZeCXYSEA",
    "09F2x6C5k1Vh7hq4bDGoe4JD08L31f4gW66X0Ib93w1Op0990pB22x3LR3pJ4Rq8I13mA3wS3xZ8su3764C1AC61vY",
    "0GK4SG01Z5Zb4qb49c2or26b1pu1jY0jM2Rv30A1lN3YxEjv0AD7v6Cxx5ptF3T2Yl1js0Pc0Jc1L5Dzl28k2fD3zy",
    "0BR5h010Z3H74UI6x55qYNM20Iw0CG1hm2Ts4od0t46ys0Po0r50j87SB2xM9Kp4Jd0B00ej0Cn41d2Cl1uL0yR2E9",
    "3YL5bT1n86YD4P77S2H4a1CO0sG0Fn6kj6as04vA1bFhH2I60Ul4Ha0Bx6v53fI2UH4j021RAPR2dE7WJ3oB9S50hC",
    "6UU5RO7Di1hI6P32wM4aC1MW0XRB4U56D1Mk6I01rx4eO1mU9aC3A50fC1tv7ha4244BV7Su8193pf0hH1rl20525j",
    "1zmBqL0I374x1ay9BK4Cp15Z1pP32P6tL0nL10yHP50lx0uD0Hl9IW11s0Sx1820nA0oC1gl4523op2rlLNA1Nu35H",
    "5NE0Pv08o78U1qs0Vq2MI8sHB2K8kxGlh0B25Ut4qo41k3a50OA69o8QS1tUBQ20uZ8ZI2E94SR2Qt7Ti3fn1gu0Q0",
    "8O54dF9P1AcP27h16B5622Yb5Gk66j4Hv1JC4lh3JO2Xx3io1nT6Nr0D13Ls1kq2gk2UJ1wTFe40if2UG2c13BkFlL",
    "B075mX2iG1OM0Ca4Rg2T20Cf57k0kG0Dp8V91HU5od22aAqr3us0105Q300I13qBi32OT1cP2l65OC1Y21BtDwS3EE",
    "0C84oJ5mb1UaAqzB1Q0UB56MCDX0z215p1gG1872iq4f658wF2W1cd3XXF8zDni0PA3ZS0L804d07t2g44LU3ZP31Z",
    "2AbLbr5Ap1nR5MrHDu2DT7IT0We1Sb1u60ME0kb33g1mg5Hs4EI2DR11a0SS0582qB2CZ2dB40O09i77GADn0Kh1kK",
    "5Mx3Lv1O9BgQ08031m4Qs24d2rw1t43v8BSO4jj5Zc2NT31n15j4yM2lc3lbCGF1G21FH1tv1Kl6gd4Dk2Jx2A107s",
    "DTg2FdMmG1GCBqN2Sk2ud0yf21544JFa128y2Bc8mMFC6BXZ38n28X6AHGoz07U7fw2E12kY1kX1r5JQW3Qg1UB0cB",
    "6VP3TG7Qa2NL8Tn0Ut5HI02i3QZ0wv65P2h25lX2iL0VP2F01RX2na2i504O7XI8g61hT29O3Tg5as4jJ31w1QQ2Bu",
    "0jS34h3h20xo46n9GX1pN12l5bw4i43bh5yu9N40YT4y12TtCdh0hyAIx0N606LJTJ02p1Uz05y2Ld35T6Gm1kg4vF",
    "0AI8mZ3VD06y0fe1Wa07o18x7mH7LD9AZABP05b0YH7wD0dK4Id3Rq8861Hr4ch3MX0ON8suD4Z3oY4rS29dC0T3Eb",
    "07c4842VKBUCJgm7MhBRZ9xAD4B9Nb24vERX1Ua0dK1cA3lq9iEFfp0Vn3iz46T8620ZbCBJ74i22O1Qi1RhCMM2J4",
    "48Z11z1bK11i69M8lBDpr64k5TZ0EZ4Qt4sl2hp20Z7JLABv6nm5r71hS73VD2e3oL2L5I190Qr19V5YZ3rE9A56Dx",
    "2D47E16Gt1od2P99Lh05c1yL1Km02l0U45AM2Rt1wr04I2Ca8Vx0Xh0gt2wQ4Xm0ib06e0F75LL25g1Gx2Fl9Lu33F",
    "2hs2vS9ND2xT6Jg2aL0Rh3IL0sm50H9Bs0yL07J3qt7TM0SE4F70eM7wtKJN1CGCbj3Ze3gd5Rr00Z5fC4Iv3dN0IJ",
    "3C01aG0LCCNt8kTA3P34J2ZV1bQ1SvC6A0xd9cP0802wH6f11RF1jA9cG5VT2zG0re2oo7171gx1tB3Uh4c32Xo0Wd",
    "9gV6Ls3Ul7Y43T21ww5dP03M37V4ZU5c31f65Pu1gy0xs0e70Jr03E1gA0xD2iZ5BR8od7mN1mF1Lh0FB95w2481c1",
    "0ao4D71be5Rc1uG6wA2v51fx8yX2aN1eSCd78xF0oO1xSA2q0t504q3556NO3MkEYV2uR8fg15n2QK3Gf3Kb06D2L1",
    "As7Crn2L03VO2Zb5jX0eM2BS2rz9K33532vq1Df1RH1f61up4yd4KE09F0Sk5tq9qvBpl0r61Hc1R83s500C1e23qW",
    "58S1d70jQ1po1OK9FZ1ZV8p426x1pc1eW1Dc0zz2xT1gR2SZ0LC6yY0zQ3Uz3RP4HD2Np2ZV46T0JI0Hk0I79Vt4xw",
    "4sKP6x1UN3dy0Xi0qX08Z2CB7sT9me9fS1MTGOa4TBQ8A5v852P1l43FG2iG3tM0EA46q1kK1cn1UL3BU5knA6P3ui",
    "08TBd48ZN2WR7po2Wa1Ds8da42h4HdCZT31D16V2TT1Qu0Wp1P8DgI4ZU3Wo3gc0sH3Fe5uw1dZ4R01hl4uz0hi7ju",
    "1yW1Ns0VH1JI4Ny5pm2pm1H7Hhs1k765m1Pv7EY6JC3LEC3J0gw5Y758j8Ov1HEASv1BB7v3CbM0YU0HA4nz1mi0SE",
    "0BV0MALgW1nF1vW0SA2Rv4He1QLCa82BL9F17ZJ5032i71S04fI0q306e4kX4j12Tu1FS5jY0Fe2mHLXIJ0C5EM05r",
    "3WL1nE7XF1740qc2vD5zi0NL1M2BF30K271X6L309D4d12sU2SA1yc0A94gs2Zh0BL0GV1831WxFIY1VD0Wn1us8Un",
    "00n18S3Gy2t95sO5X846F7o40ME0WY0738KZ68x3mb8al0ni0mb1DK05s97A0qX1NcLBS14d5th0v24bF34o3Nh691",
    "8T2FjS3eyGMq1Aj1UR3Dm13HBSN2SB0EZ4uS0gj1ET8Ef1b77IX2r76614ioDmZ1sY5Ok34U5f25Q99Jc0Cb7xf0jZ",
    "Do35mMBKZ7lF0Lc3gt1Kb6oh6hT9OI3oqFQn0an3iX0Sa0Bh29r0Ji9hf3GiJWK1ZO1lV80T0Ob2XF2pMGM7DqN1NV",
    "5YN4Uk1Xx0eF1I42nH4NH5vp2HY2Yz5Bm1Gn3FpK7C02K5E82AP0aV5HD16r3Sw03E8we06i5Ar0YTDXEIffCNR3ky",
    "0po3Py5Rs3mv8xB3Jm59B9aI0fk26w18t27H2K14Tg0XW4Cx0Yt0c98C025F2GH1QT5802R32ry0iq3pl2XxGBB0K2",
    "0ie0V4CSZDcR6940SA1OY2Ga1vC6ys7q40J0Afi1b96Xp4Ix47C26X6QK0gc27W4SQ30g5lg8xFEBS3ay1Lh2Vw025",
    "0Wo12B1UTAeLDHR1U30eQ3AU10L9CK2wj1pT2zC8Cb3jx0JT15QCEs3aSAlH1NJ0qp7AP3HcExn0sX6uHApT1M30iJ",
    "0DWDap4P74jC32W0FX2cO29b3Mx5xN0Ml0xo0FQ4rP81Q37D1tE9TU2hO0Xw5IZ2hS76J7Zg0mP0aY0iY2XW8ug6L7",
    "1yv54723zO3pAxb2ksEU3Cys4ZZ11T03d9ZU0Ce4SZAR18kM3Sj7Ji0RH4ML2CtMlu0tO5P0BsG1Mc9m32dP4Bg462",
    "0Ih0bz5er4UI5yF0g50j21k79ao45P5QY1Cd2Cn0CS7KSE1U9O35R41uSMbh27a1my0cF6ZPAvz95T37Y2tt0Ty7H2",
    "3FwA1m4Os0c901A85u4g999l76d46D0HL49v4oDAf80cQ4m61Nk5wo50X33s35w6452hk3BZ4mtAcI5Ti6rG0Jf2de",
    "59f1M9D5P01F2xg1wZ0xF2rK0eE71B2Yq2qX0WB39T9wY5to3Rd3Tp8Dv13s8J7CSv3uG5Ym0Fn9Vc1ud59e11k5tl",
    "4QG34J3c00Yp6r96zf0m837X7vL0ocBx07lm0Bp0sl2KN5K64o13Kh69MFXFNbg2Qa2nz1Qf2os9ygB9l65k2I84ni",
    "8YTAD04NJCJJ6Wh0ZO1291ui0V71Ol06q4Eo2Gl4Gv1AT1eu1e80ra2hB8vD0fdM4v7RW80C8Ji2AJ3IQ75I04Z1e9",
    "1FS2z91nq6FU3rj1CZ11O0qQ4Nt1Ya0Kx0naExk02t2aS6bO0WJ02t07Z6tJ1oq0mH0TW4530XE9DtARl7sC24A3Ao",
    "Cy93le3Zl0RO4uZ0Ax4sZ0gK7MUGgb0PPBSY9E42K08nv0BR0ej6r96E60yP0Ip1P3OeO1fRAyG0tY2KD2rk48g1jh",
    "2GW0SP2Pj0vd76x1xJ4Kk1BT0zpC6IAax9ko07x0dc2Wq3Bq2Rr4oJ1Y91Xo0xE3VK1OlC5o0fg3JT2va4YrAud83G",
    "2A33yg1Wc3xZ5hG22p7Jt2xY3Mj1be7EM0565qD1bC2HWAMa03d3cx4ac0dl4fR6CVB7K02M4zc0JL3UN1cg1Rv2h2",
    "8766bb5Kd9bg0Yz04d0me3eS2LU1uD2ueEsR1014vT40j03v0yZ5jkA4M3Q38Pl4S72Mq3hT17F35E0s90cz0xh1k0",
    "6gC6DJ7ah6ZoApi51T6D9HyZ9wq0CU727DUECmO1WS3CR95O6do48w02T8Qe1ZW4PG3Dm2xY18k4dn9T30at1a07PT",
    "20c3ZK1I85nY7GG0XG83Y0tIEmG6NX4lc4xX6F32a20aYBTc7022qh3Xw0GV8gg4d59tn7uQ3UJ1vF4HI5pW0Yx4Qf",
    "0JL77W6Ri1hA1WEGR3AOeGgX3mg38N0Zb1Od2rwEnC0aH3iF34J5Tg3VP0r15y60s21q46AW0P05ET1RV0013Al0it",
    "1mH4Mj1oqFC64iV2Lq0Q801m3Sv4fn30K1Te0DQ3QZ0q6CPa6Ol9MQ0kB6cH0yf3wO7bV2i40KJ11H7aD43159n4yO",
    "0IP1xl1Y809k0ON0Ap3O41Eg7Af15b01e2tJEYf2Pp04F5542Bu0dE2do1Sj4Xc0k90XP05H51225N09S2J29jJBrZ",
    "4PE0KD3GG5EGB8o0fq6Sn3fg0jI7D79o70A09cP04U4Lv3M94Z908s1R86JjAyq3oVFaw4bP3jo0Fr12b5rMAU20aQ",
    "4q52Ed00A0W70Gt10i4K61DC2c00aq5H33tS7gZ29D0JU0Gb3ps5Qy7Np2omCrY3Ek5Sh0ql23T0Oe6wV0y56du4NK",
    "0cEF3L6bF1zf1Fh2u44im3D6GWp1M554b1hG1T50GI5UU1UO5nv4k40T60aE8n20u91nL0ly89M0562F5Ah30ZS04Y",
    "4Ic31L40x0Ya32L4y20yv64g0Dt16M9li3ps5GTBjl6q54yl5ENCp9RmJ61xGhq1QT45786X2ny0Cf0yE1N456X5D6",
    "0jx2Xo3cT0Ny10N0iW0Zt2i40e70xD1MM4b963s51m5dV3Ol05lC1Q8vi17W19mGuD3hG4z92nb1Wb3oZ2KH2W91wH",
    "1CH5Bn2OI8xF2cQCBH71E4B49CK3DlFYF0On0610l80bN2Cm0Cx2JY0U50oL2mIFme2jT01c1QS2Bw4UKDVM6aA258",
    "2bu0082Xi84G4jz0E78Hf0SQ6uH3w30s9Gxv3nX9xSGgE1OG4CB2bN25j0Y27lx1269Nv3uc0yD4bl45V5WR0sM132",
    "3kl25M3wy1dz1RO8GV1Ps23QADh2Vl1eq65n0IR0Ep8tV2fG0Q214I1oEBFh3ru9yO1qIBX33m52OL2Gl0PD0nOLnX",
    "0R50PS9qQCjFDjy1BM7Dk1Ul7tr20s0dzSn20J00Oq2ii0Iq1Cv61wCxM1hw4kT5Z47b4GDI8Gt5311pR0qc7pT0l8",
    "3779D611k2MW2g965y3276LK7p32i70kD5SF0Nt7Hg5LO9pv1gD56n6hE6834AG1yOAVD5Aq02o0au1di4Sn6961ev",
    "0ap0FB9Nd1qV1xW3OW3ep5r833s03X86E09w4Xu3Jr30h4q43n7D6Y2v273X0TB3LACkw2ez3pk6p80ae4gw93p00K",
    "9fJ64707y1Ec2OL5xY1pm0T60AI1Fp0Fg1VT1jX1oq12C4MkFcm48R3da0Hz1OwdPP2nv0qy2PS8C60Mn8xz08b2gA",
    "9JD1AY7IC0PQ1Rl1ayDRRNLQ2l51wo3Mo33C5sc1pX31c0ai0rW4HO01Q3pR0yv3N31c69HDQXT3xa2q7BRq4hA46Q",
    "1Vg1jt1kv21e8ux6ah1aW3mN2x73sL6YK2QUMBo03l0QgGBv02V1GD28F4m23CR2dA04IA0C0j00kt3BP2La0C58bj",
    "0bQ0eL7s70xo16u9PT1Gm6AC1Kz57p9pn3gU2pQ2AG0Aq2Qu0fc1v32eH4VxJub3Gl3C50EN0dK4CnAJE0ob1ncHqU",
    "4lT9kS6528Do3wO1G05EZ6E7BuF9PO1te0uo1po5jN4FFBKw3Wl0TS2s89ex6Jz0Wz3Og1pl7g018i1l01aZ1rt2ce",
    "6MF2ll9zc3bP3HS1cx2zV0I8KTN31r5xV8t984mFmDEPc2t1DkmCr21xY1Mu5PR0Mc1JU4XY2ug7Jd2BN7Ky2KU5OV",
    "E6J00q0Lq00b3sJ1j97qb8IJ1wo4aR0wa0PX1eG38P4jx8063tM4cI58k13m1xI5AtArd4dvIoO4eL2jf0mm2CQ2uK",
    "1uAUFE1Mf4BD0R13gA1Kl0NT29h4QI4wt6F007C2AP4EJ2UW2h80RE0Fe9P51MgDGn4ep00i4mG1zw6WJ0nX3gj278",
    "5721yQ0zw3re5im3QmAJw4Po4ln8cr5Ae2NG0xo0Tp0dW0UR17MAsg6G7Gcx42R7Iv0FwJQt1Uy59W2LH60V4nw1hf",
    "66f5kB5DWDsz2VJ2GS0381GJ5Wz2sA00y3Se3Bv4Jt55s1fl3Kd6HO4NlBrU3Kf1UF6LU2NA7J71esANx5Kv65y0oI",
    "0hy0711395BC4K95XY8nm4ywCu07ly1521Jx2QF2oW0Ws57u9rH3ER9EV2XrHG90UC4Kv9wX1eU90r3Y51Nl2qM0Nw",
    "2mbDKt1tZ1XE05C4500Ht2vc1pa7Uw2St0tV1Hi0FS5SC06o2kw2lc30o7ID0yf3LoD4c2o76cs4h30gO4ba5E54Rv",
    "6ZC30C0RB0kE13s60kJ0q3L257L02H0vX21j3tL81z0cq0BJ1UG1Dw8bgA4z1kx0Pa2ji1ck7sRIFt0rI0g92PC6V9",
    "9HS0FW7LO4O07OT0L92DO1kg2gp3Gh21e4sB5Ia3an0Ui0yF3In0pH1bR3rG06I2ce5JQ0b21Pn8GZ1C81fx26P5c5",
    "2k23B25Bi4Un2xd0TM20y6b80ol3W47w39Wl1xHA9OA1I2vc90aADv1lZ4Zh5aj5ve0ek25l7Rl5Qm0oY0rw3iD4Rc",
    "5rpHk51eb25V1o81TM2GQ2Cl33BAgSDlb5AT1pV9Rc1Ht6nBOJk0fm4UZ0nl2y72JT06a4E65SF33g22S1QTEzc2Xx",
    "2BE5Zo9Ej0E618l0VO12b3bt1dRCUH2T589f28D6s70EK0QK07DBmW4AX20J0tx1cp14y3ve5OW1PH35N6iwB6y1qx",
    "3N15Jp17H0lr0bl7Zd45174V7aN2Kk0kI17x2Cz0t0AUCIxs0gH1Zc1GNCNbEtF8N2Adc4hD21a5uy0Pl5Wl2A84Es",
    "DVb2nx0Fd8dH1cWJkG3i11Sn4w22X64aT5Rl1NO3343N96fK567ITU0Sj2Rf1dq4hi52Y98Y0053cn1en5jz6B50ca",
    "2UZ2xQ07f5tX6Fj2Wb5V53EM4Xv1t31oz5mXNVdHeZ0D7AbX5r9HQO5qT2Bi4tR7DrBaz4Nm1ZO1ys0WXAND93h0up",
    "0VV2Zb5VB0Hj25L8Kj0ya3iZA6r3191zF2Wc62H73sA3W16V3ct0rK0nS3Dy6k525C91H5rU4fK2b04zu01Y7AL6Ev",
    "11k58t2VW1zS3050YS46X9D24Cl4Tv14Q3ld1v56WV0jM1Pv3700sOB0P2lV03U03R8Lv0Ob2YV18J11O1lD02H0cA",
    "FkH92xLs52O7EBG45s2s82sR3VC3aV5l41iC2TD69q1Ym3xZ3Um6iT87F9Ac4G46CX4ISDsN27A3Ej0m63zH1S56Ci",
    "2zd4RD0Je9tJ6zdHxJ0IY9FM4eY3ROAYA00D8bb0CK0BR0rw4p44Hg3lI3YJ7Vb4U40zo1v59no2LW6lg8fU5UM2zw",
    "0d70bF7222b41Lg6yr1H52hn1jo12m0rW97A2E96Z21Tb08H1Pi39e32A1BY8nO4N51FZFAX8qD07I0QL1ta2My1yu",
    "0p46Gv1IX8oF4MI6Rv0ZZ6eG9IN4IP0dN7CX05Z9SO5Hs1h30lT3QN9wa2J24i53Q30kU4iL3WH1NE9wr0nY1wo1tD",
    "BW10qz5f00NN2E30do3qj0Yc7U00dd3ng0Tl0AT2EG2Wc4MD05k0b23a84nf0OB7pO791BOO0Z44mM05l3zk7JC2xm",
    "ANs7DNDfM14A0fq63nBh00Vd2Hs3Ce0vB7Wb0zG3gJ4YNAN81a68rT3Is1zf1Af33k4K20h62vP2ep0Kf5PY2SC17c",
    "2s86ho12F42Z1Ut1Nz1qR3Og0ZS0pF4Bg0ed0Bf2KI4Cr14CBfg3ne0sp16h1Qj8WE32q60MBbk4YMElu0iX13V0S7",
    "4QU0SF0Ko24I47g5oS98Y1aq3od0cP64W9AN2em18Y1lt38t1LX8Ju8EY00j1CN2HdCwz3gG5oj0gh3GZ4l95B3AbK",
    "4S53uYDaH0MM0DE7Rd5P10lKESZ0f785w0Pi06R1hK4L157l5U18jY0D57Cl0110vi0AY1Kq76e2341kf02EEdV4Lt",
    "3nP1wSDJG0TU4BP28pBXq0ra1fe3GHK2S0DwCBSDAb9Dq2Fx2D9FRVOhg9eD1UR28P1R0F6Z3NS2QR8A03qO4He0Wj",
    "9DZ1es4Ar5PQBbt2r90PV1qw0o6CEA25W0G43rT5Ho0yJ0RS1TQ35n4nX2jkJ1U4BA8oG3JB1NaAH2AFA2vg0Lo2Sh",
    "0kl33t4ow2ku0uu8Bg5yD0sW0bP8Vc08fEJ36kiC6P0CQ1uA4iIG0H0pO2t41Xa5VF8Vv0Kt9dn35j2ev37FCYC1sY",
    "5Dz0AL481CMH2eE7b96nb1nv0R803E3fb1pp062Dgk2IA7bn0hA23OC6UByf0Y51pa3L98Zu7aY25s0VfBeI4DiIKg",
    "1Vb1g62Vq0vBCCA5vb24I2Ng1OK0kG5NK3561LN48Q2Rc4564s02dB0xo4Hu2X97vd1Um8bt2n00MZ1iB6Qy3DH2qC",
    "2WDA3D2DB5gI4EI0Xb17L38zHT23zzB250xl3KB1yq1kgGE51vq2OT0dm9ve4PY5vw1OJ0WP3Wm8Vw28R11xA4N5fj",
    "2aF7ZS5hF4833lQ1h44T50gl5Ta0S53OP6Z273G0Ir8PZ2vw1U0GDQEYP021Bhu2U23qYEa90CV16lCEv64g31B0D2",
    "2Pl8xk6rn0Tm2244US6MH2Eb0U0D864nSIWA4EgEGf1PI31N1g92QB2gkA1X1ZtAs23441Ih0it1Dg70V8zg0ru1oq",
    "2Rf12F26f4YS0VS0YY0cd2Ug1Xb1rgOTVBYA0OyA7n2qX0NG1xU2Ec1DP44A46S9ef5W06koDKG3TMBbN2NB7AY0yk",
    "1AZ3yL1hJC4v2dr0b648K47o6EuCIU1xU0Bm62P0jTCCP0JQ0T736n84n4h41Rb0Da5VF38y6U73Nr2yD0vN18H1ro",
    "0BI38yDLg3dy1kA9l50CP1wgBm17MK1Md35U8Rm3ez1ms08L3bF1fLLTJ0BD0TsCcrHId1Xr15J5cJ79Q0hD8O95gd",
    "3JMANvAFr2bT2IgEqk0fy4GcAI992k7SD5YK599DFx2Ki0Cv4ya1IC0CM5y4Hfq3Lr7nd0f84qY5eO1aS6R80lN0EU",
    "62310k89D0x304D0M259p8ln0x828xA8h3nl1ao3YgLh41Y01Uz0GuEe71VF2AV0jwAiQ1TN20t5GX6VI3dK0zp1Uk",
    "GCn6rF2vVDlH2z53Ch3L7Ew2AyxBaT1LL0Lc1bMIXSG6g4Af1Jj0UL7pa0Wp2s85vn51x5Rs3Uz1En2XN3wS01t6yJ",
    "0oU1q9EYI3B35du3ir04P0OG3D8D4d0Hc0d56LA2Oj07RLaD7ooAB92jG2mC4rwBQIAqO4oe6Ug1Fr5OG4BP3tM65K",
    "2ZL3jH0X493R0VG5BL5uI4kw0U73hF6QdG1w5Dc0c62q279X0C74gx0AX2ly1if0rW0XuAApAT7EZ81EcCzC3ZJ01I",
    "07M1gZ3bH2rEBhL3CR2UD4Kx9lB0hP0gK4OCBQM1xd1jo0kW6BN44X02O4SA5Tt4ma6gUMoZ6r10TM1rW6zjCbSALd",
    "53C25n5by16sGm91x20zW5PZ0cX6voBd57gP1s1CWi2QB20dBoW0BP1KK36j7nQ3MNA6U1UG2PD1oz0U13Zs8nt0TZ",
    "0xO24H2p00uDCD82YE2Cq3Pw1ByRCe6P92rG3al1XW4sU1qj0NP2OL6u9AEi19J1G160N6l12dq3M98UoASa8pf2at",
    "4z973A7NN02K0f80e45ST3eh0532960EjA2mBya2LTLrz1Xt0ME4op1zh5Zf3J91JYQI41TX4mz1lW4Kh0eT4Cf2gk",
    "3yS6KH5PD4Sx1Yx4Sz6NMHGM1Rv2MK3bH5Ks21y2v15JV5EK6Kc1ir1kf5qu40a09H5Wh1jc6wI02PDBT3751It01d",
    "40s2l65OC21z4ld8Z80DH22Q0AP27l42OF384350Tn0Lz1786gy1Wf2XC3uEPnm61O3MJBi74Q44wu27c3A06mj33A",
    "2xh0To5hW0K32Fd0CW2583fr4py2eQ1C2AXdGAz8a41YI0Lv8XI8zs0TBAid0ME4EG6JT4ZO2IS1U90BU1QZ3Yq9p1",
    "0p3TFN6QT9cH0We2yR1Sd0804Sw6Su6rR1e45Bu4i61QT58R5Ia4Yb1mt0l417m0X533M9Nh37x5766e61CR4dr9TY",
    "1bu5aa3LB2Z47qw8Ta45g0BZ6Ez9yg47C0YS3twBL12N06PM4ym4893A53154Md3nm24g1CV3ti8xs1J94ZM0In2IQ",
    "72m2Us5Ix1580JzHc946h2Me0vt4t026M1Y083l7Fl0j72fR10H7UvERR4ph3Ha1GV0QF19Q5kr4DI6cB69U5Gu0dn",
    "7sv0XvAPX2AU7cE24r0Nd0aB2Ky4Wg12P8LP1Ml3JA4hm3II5OV1q79N40YT2Op535Ai5BY66Z90AV4ko0SD9uP11v",
    "2IW0EZ06B2LtDeu52t7Et2R01BF3bZ18I0aJ2Pp7LD4FU2XNCZ789P2HcKZV3ku5B54pdBwl4ET09EBS72HjEkHBIc",
    "4mj2kE3sm8qp1IV5mm28606DCP412gECH2Cs8Ea1XP1qR53DCWX4Ng1h77iN2Ng0Tm1S60caBfO0jD0Ph0J54Em6Dy",
    "3Kf62F2wf3Ub0a83r45bw44M6gY2eO8TI1sj00P0vu1Yq8p72yX4B5JubALc2Li01k1wO3490OR2fREW5CJu6OG1OU",
    "2VO4mq32x1Mn3Ym10y3KJHFu8Ek22303DDUDDC62ti2mD8jB7oS07j1CN3RQ8g271O0DE2195nH03Q3e13Dt4G16Vs",
    "DMr59g7ln6H60gv1ug2yn3ScCxK3NM07J0slAKG28E21m1Iv4az2WH0go0ex1GA2Nn3RR0BF5or1DL5ojACY8vk4Ee",
    "2os5Qm4Xu3vg2Fz4524z109X22j6nJ3VtJXH0Bg5du2LS0nl4Pf7hW4Lm2hP8MR2f00GX01Z5K10Lo5ER4yXDVM1GF",
    "7cq8jE0zr7NA4pF4mu6uH0JE58k2Bj1bm2eX3Qg5c33OC1ES2SM5MC2fI9jl70Q0J85VH3na24J5H23cb8jD1xG1EI",
    "2F31Xw1Gc1jn4xI3FE8yW0Jd3yc3k23DF3oc1no0at1VT42Y2oL2oh0B40VC5Pj3u00Rg1XLQb42fz8zM1nJ2Su4MB",
    "53P6yn8xf3Z73Q622I18i12R27k4Ea59UBbo40D0BF1881Yl09R30uDLa0yj6a3HT3VY73vv1JQ5QF7j12ka0zzHAP",
    "16j0dU7ic1KI2dH0E65TACBD28M2z47JS4ae7MA5Gt2vR8rK9MD9Jk3oV4Wm0JL1718u12jm4QP3d63uu3HI4Q73hq",
    "FoW6xs0ky7Mh9yg0hX3UuEOCD6GGNd2sY2D73bU49U2tr4sABtHB321bbSoS0Xp0Nz0qV0Xq1me0Uj2qA7O64LH5Ue",
    "2j901w0BM0E60N78O92iC0UF1AX0ig0Ix44z15H2DJAKs2bW1Vl2OV3kL22t1Z18Bv4zC8nC24a3Bh2OS03U0L177N",
    "6uV0As7p31zHAKj7zE0D15MzBf10C57lJ0BV0MA1ah1btCFx00L2Hk3tc0EH1bG2zs0QX1PC2gbCtx7mr0H36413M1",
    "DZq14m3iR0Vk4f64Vf0jM3f72NM36W14R0R77lR9zU5Ik2nkAKG2WXBWO11q1RD3kWFIO09X0Mx4lR2Tm1Av28T0MW",
    "0N74LD24O1Np1Ch1Q96Ff3f21X11yq0RE8Ok0ZA0TW8Fm3iQ0dc4cZ0Yf27Z7PO3X4EGI0rO7hR7mJ01l0ME0tC5hx",
    "2nu3DJ2Aa0KB11O2lDAB40iF0ax5Tg3dU1NR0qi3eI1AR3oD7VQ6v85Vg13aFPH1jA2VK0Dq0ze7WO0RB3V627m0PC",
    "I1vBrW0091464oC4XX0yI22Y9OV0TZ6CD0nP3Qr2Zd4t729zBnT2eS8zj666HBj0QY8ib2En3QI3wY55SC092mh5f7",
    "4SK37A51z1s80sm1Hb5nx2LL37m3Zh0bN3lc0s721Q2PL3XH1d6ADd2rJ6082cU2e13ZT6IC3MPDfg3PrAPk9Ca3Ne",
    "88H0JU4pSCsc1F52Qc0N04Er97h1tf9uX0CJ0ff3XG5rO3Gs8qM4wk2oq0Y89SH8Vt3970HF0Ov18w70M2D40YT20a",
    "1f649e4910F915I0ES7Hu0EyFlrBOh0Xj3oh2PZ0TK4Ys3LO0OZ0gS0hz4R05022V01t55s11Pn37f05b1yE3PV2K1",
    "4R90a3A3o5bQ2GH1QT1Ba0gB2cnAV42Xx8sg4ii3cT2gk0XI9jb6Ef3c60kp6yb1T21AS0VT9VK6x57JeBDU8Kt0x1",
    "0EnDV30lK4SQ8mM0E78j82wG38KEvh0fr08n1QC0AE2qgBrM5Y90dL1522JT2S33ou1wC8RP0vJ65p0ZK3As5xqBjK",
    "3zg1YC0Gn0OGGJ73I00qw0G0G2F3s70l90W15oU0ZmBFE8Ad2MG1MP7yl3Rx1HF0Hm9P502p81R0xo1563km0Gx0IP",
    "0QW25j0sm7RD6ljBjo1P445V2XC38M0fD6xBC5w2OF2EX1YLAim58x1am1U13ENECq14D2a1CSh2kI0iGHIu4Ga5lY",
    "0bH3YB0c7D5g37w20x2Ss13d3Nl1q62sp0Zu1nN5104Y30nC1qI3ITJhp4L71PU5on1Y9RVV5b133v07N4p821k0Gr",
    "5CQ08J5ih3Zv2ANTa530D7aW4lO18L3Us82d0Mj33C0XgB8d1qe0YZ54Y7lx4etDs11Et9E8Li11Lp5wU3ItApJ3eS",
    "7dhFTL2xy7GD3VQ36K0tg2Nj0g94Te4gN2dD3Dz3yH1iA2SV0s46QI2Hg0ONH7n0e63oL5d45091JJ0Su46W4kB6qC",
    "6Ri0VL5MFAhj8nX8GQ1Q732C10v0gX6QZ0EF67D2Re3Is6RW3zB0QN1gv0cg2RG03L1Za1DW9kF17MJCo1oh5GpDHN",
    "06g3bv6VC29G4Dx5QH49D1t11Lp27H0N33H02WD5eG0o82QR4rJAHx3WQO6x0ai7lI2DO6vp8Qv0DH0Ji0o04GI0Cx",
    "7vxBuA06j46B1ot7tv0Hh1no6zu2nx0D02JT2bkARm1Nt5xU69m1WF05eBKM6HX9WH82z4ZS0Ri03o42w4Gm5dk6uH",
    "3CR0pmCaA1w32OJ2AJ3mA7YD3Hz37FAtz0Ta1NO16s4pN0Ry16yDlD9sZ3zC43B4KG6cv2BN0Lg2KU1D47D546T1ka",
    "0le2Ty5ZC4OV02Z1o61710J73353MW2k66DK1Ps42cKQp0bY3xB0J52IA0MZIKg1PJ6GDTWs6812HQ40D2s81Zt26h",
    "0oU6c12zF2Pb1yd0NE12p64T5249BZ1hUEbk1043Rx0qA2vc6vv8Xe3W52fk1LU2SM08r4tE24y5wV00Q0Ea7b618b",
    "6Z54mT7wL25C05wA9J4yC8vm5670iy0oKReD16d0uI3GE3xR1X39fS8HwCVE24EHBi3dP0Mt2gW2lt1eG1rIE1A0Pp",
    "0B33IU4An0RV3uUKj15Z3EVQ04k3Fw6zz5tW11F1KZ01bdU56YH6491Ot1lC1l720d2Sh3w11ax0MqF6p2vSEZpJub",
    "6zBACq2aF6b18EE1Ep1cpARH2Y52it4aRCVX0QrCu09Ed2LZBpi4wWDrp06l2id0lK2lN85SHre3Wf6Af85w25V18G",
    "1td5lt0Y04r62RS4wu03T3Tm1ia3Ae6KR0ER5Bp32619D3wV4H43dvFFi4uR0fz12hCg425p43P0QN0wy19U0aH4R2",
    "0iZ17uCqTBj37hK4Bt6kA5VK2Wf7UBE4p2BV39s7eg2IV1Me3A41RA0TA12TB5Z0rO1Ke87C2061oc7fo3cf2xf4SL",
    "GV238J2f20ON0Ap0zK1Xa0rA21G6O50tV9hR0Lp9Q50cC2qC2QI3oS5lZ1mx6Mz25N0Zx6gdTEd0RK1ie0tF4hd1m5",
    "4mt5U66kN1NG1hj12M2NG7Qr3aW6Bt5N62FP4RE3wm0Kh3ZP6Ns4l45Mc5JI1JI0AG35Z2T4BVk06q7Y74j39Nt2En",
    "9x01E02VL0iA7Sw4Rq1261401SE0Gb3ou1D81Kv0MS2Ol33EJdC3l94PI1Sa1Hu7ex8M40Sg8bY3ws7B37no0bF3vp",
    "1tB3Zh0bY2HF58x5UZ7FO1RO1of3Ak06b3oj57z5nv3fxHzX4cq0as4fr0A35OhA5uB1i2MK10y2RA17S1eb0Yi6i5",
    "6YSNOq77H0QC08s2tT3I25ze8CT6jZ0Mk11Y0B91UP8pv07Q2omBnEDfj1QT3Cg0zF3dX3yu3BG2Xx56X3Fy29M6i0",
    "2gk0tvHBi0Pr0WU2PM93E1b27IT6iZ5L4I9x0jw05U0oS1DE1kr06r7nV2m39L38mM4wt0273yF0Go1aJCwa0iY1MT",
    "4wD35f4Aa0Xe3WC4OP0fw0AnDzq1aL1Wc03d2gn6OG50N1er4K84PZ7fw4Q05FJKVr2Ca0jB3qnEnE7Hb6PT0tG2fM",
    "GNR0A47B26WP5KK17D7VB38G1Kt2QE4ctGP09Cb2EO1r70ai4g43cx2sh1VW0fO4vZMP80zk5tX9rX5Bx4hw77e483",
    "0Q7F9I0fK111ARlAm33Dm5683pP8251un5G98WD6vV3l74PY1Lh1gh3KT07s0xk2lA14W9ec2Oq2Q13h619KKN54wL",
    "0Oq11T1hF77e9xC5Aw1wc1LA1Pu8Nv2842MT1aM1Pc2Bd2QOF6K5HB0Hx8a18l41eE9XF8m78r50kQAJ60Ax4U28CI",
    "10k1589mm53263N95s72JC5z09F1Dn1jJ18J1qb0yHDea4ZC0n905X3lS2Z46JC52Z77m6uY1P93JX0RM2H604P5K7",
    "4I10us0sI14y7Pc1oa3Q935x4AJ08z3xU0SD39w0173km1dO0WK7Bm2gx6Tj2uM5gN0eD3rP2Cy0TF2X925o3WA2XL",
    "2q866ZAel1Q84UN0APJK74XZ0Kp1xY3IP6i21Yo8nd0Hs9dy0VX1BJ1lG2091875w25EW8nv0BR1ha1iz0Yq1hb7En",
    "0oB7CFBIQ1AEHDm4C6BbO5Ge2r0EAx3BF0XR1Cw0ai0rW1ay7WC1y313dJrM5DM8Td3qiCCy1VB3bJAOF8vu0M30WT",
    "1BS1lS2uH8cvCaW0Ew94q3wA0mK8LG8Vh1sc1s9BO70hC0cF5fa0qf2yE3O66CP3sI3fD1uP0sC7Vb44169z0xo1Ia",
    "43B3473NHB3I1Vu4Ub5P05Sd3ON8wZF0423R0M44Wo00o1Ce3St3EK8JjB0E3S038QAhM8k705J1RO0la1N016q6w9",
    "6td0T476l3BO2pC3Xj2kn4ctBDC4CD5870NL0T92bH58p48x1dZ0MF41P4bi2s89Ok77B3Og1Pk2mh4YW0cL1BP2jM",
    "2ux00461J2cR5r544r7FA4651pLRPz63gAP334d1aZ9Bf2ED1Za1Wl0b2BEM2ah0jN2kD0qi0qm3Ka1AJ1jP00jG7y",
    "1e34Tx0bN4zk1Yp0Kn0F64VJ2zU0Iw2mA3q25yX00m0CF4nN0JL1RU3TY0G124O5K22CM4iz6CZ3579VY0dO42AFa8",
    "3H62VR2iG7S113dNrH0lo0y9FxL2aq34F0Qz3ew9ca2vX5Dl3sv61l3365aN0CZ19t8BG1ML9TL14Q2Xq4MS1M80PA",
    "0Ed1SQ29b0DI6st02n3ki0w11Bn50g6Vj4NO34H1XF3GD4vr4tP0Lr2hY5zO5yP6Vu1q5029JGg0xS2Fm4yI2oc0kn",
    "Ezt3ly2uT37g8aiD0S8SbKrj4VI74S7YX1XX3Fh15I07z8L27FW2XCD0E4910rD4hCEbs2R90kP8p62gy8j91g6253",
    "14w2ku0mq5bK07p2ab1AW4Vi43g5KS2gw4tI2OW0kQ6Ys4nm3i23SB1dH10N0NU8VT43H29R5R20t53aB2pT84a8Ut",
    "6EU1kk1fq0JcG7x9UC16W1wl01X7hY8mk3xh6Hg3MD1c83aBA4f1C902d0tn7cK0Nw30M0590uc3Nh4jQ09L2iz17w",
    "3Qn1lm8At51i4CjC2J4Ui5Ch4aY0q50zM1Oi6Ac5nyGIQ4YZKoz5Lh1ip06k6Ly2X75d90946oE29S1bk0xo21jEDj",
    "6Cz1oi5u00qq5840Gf7zI8l7BGE0u26nq2FY1kz3crKda07J7NE2Zm1kg4wn0PY68o6em2Tj1bm9QE1F42ce2YX1ua",
    "43j1Nm2MO1KgDYe8KgFQw3iqRP53EO9am1NO41W0v02mw4MXDKt1omGKA0hd7Rl7Q55HVHfAAAq3RD1vm7YW0rU5Ai",
    "0tr25j2gb6oo4PSAem5lk1yiA09AWM6D6Arn2eF00u4GQEwf3Yw2WJ1YN7M02Xx7Sg6Xe2ty0JZ2gk2Y64rX0fH5so",
    "3lt5HG0P226HAqB0x79Gi5ZU7Xy7DK4myA534Sq6Qb4bO5jc97h0To6Xu4ct3sV4xB1AC2TU0VL0M74oM1yp0upFnV",
    "0DzHjzBm70ry5KN0ic2qo0Gp1gnAuzANM0aJ4wZ3dv3H017t12F84U2xV15M1av0pU0293Aa2Eg2C68I00VU0UU1bt",
    "09B1C893L1KR7riEVV6Q30eU9V05Rr0Ej84OArz7Pq0HICCm0j02L20wk2990N70952VR46u4wo2lh3Mz0ir1p8394",
    "1gTBOu4J673x7iX48A0yl4Bb33jDCJ4bJ0Wr2id2OF1Lf2Qx6qp6TO2jXBeoDvJ1bq3AIBz82hMITR13a0WX6YQ0cU",
    "3rJ77v3GN3VY31N3Kt09A1i70o0ARs30J9BL2r51Qn9ni20H8xF1Nv23v1wh3ok16j0Ec1Fl0ObA8XESv1jI0092cS",
    "2uR4l50yg1ih1dQ35v6hT2c55Jw3QF1qs2ri6eHCMW8l801X03f0m18Tw20D3S75Q61Ws6QI5PN6uHBLX1vR5iH1bc",
    "8JZAlU3FX5Pn5GM4c91FT6mi0Ud1CB2mi05Q2FX1zX2lu5Zj1CH39Q2yD7ic70C2ed3r31XZ2x467m6T91pz2Zl0Fa",
    "51zEVN0LE7dr8sF2U5GSk4hi25B4jU3SA03P2in1UX3ZC09p2Uw7hl3XG34L37k3K37ni4Es0KR1qd3rv28Q0Zq9yg",
    "1Tn4Rc2MK9xz23M8KE6PJ1uU8Y06ct36o3hG1as6q99LR1HL2IX3y00rWDpW1RS4FF2vj15z0NBAwiGOf6MV9al2vZ",
    "3Nq0gO2W31XvCmi34p12u27pBWm0Gl1OuDWj1ma6YB1661jrB1g58J2Fh1rZ4xuJOu60g36FASA6i62TxCkx16sEOS",
    "0ZT1oE23t2z63QQCEV41c2o10ygL6S0KB32m3pP5cM2w89eF40D1bmCbFE569L60asANo0Dz0u30hG0JN3LQ6gl2Nk",
    "RlZ5eX4av0D23Mm38C0YZ6ho1vH4DB74LCqMHCWECx6F30C15Hb2q21Iy05K2MR8pK0vG4vR3em0Wx0HH1ws73Q0N1",
    "5Qa9P45hG48X1Jd0dO1OA2VW6qd0I02Y45ZD0DE2Cs1SXGK3MU93Lh14K2UZ66Z9o0Alw2HA0bO3CD4As3eU2Oc0Uw",
    "0Lg1z04sb5YJ3ne0IuFsH0rm4YNMLa70I3Em4H2EMY0Nf5Hl42V7rB0I70ox176EP53ZT0bE0vMB1T18900T2XE562",
    "4JQ32z7A03uE4wt5ak18c0VD96B18S2Rh00k7Pa2Hn6lv9PE3jS1KB1CD5uGBQc4qQ3T81zQ07F0zr88P5WT4fi4Bu",
    "25L63V3mMElZ0Uk5kk2GJ3Qv0al5wF85yCY04QV0a762k26V0qlDlL5gr2nO1rN0R31oH6B0AEx0YX02Z2Bq4524RV",
    "CVME1k0Gd0qE04h8Yt2U218d2pq5Oz76Y1TnFk41jr06Q2kg2Tu1Oy2Qs5UA4xk3ZZ0CQ2wd0E51F084P53E5um08X",
    "54u0QLCcr0BB2TZ7V70TK3h24hX0PAEk14ft7ObJL40lr0FD2se2tt0bV1gm0461mt6Jt0tdADh2Us0fE1ob2p8158",
    "3Z0FgP75P38c0kw0Mf60M5L6Iz92Wj6bv05w1gW9xW4nK3pD0LA1TmG9O1PO0jh2F80yS3NB0kG1HSAql5i9A7k0nL",
    "0AT4Eq0rz5hV5R83Eh0SkD0J3CrCrD1UI0Nh0Y70ME1s35JC3Mo4Z427eDUy5tX7TY5Q60xv6ffB6c3Pp0hK1q33Zc",
    "10Y2QO5WS2zS6PX1P15jt7tu1ti0wC1pJ0C1AF02nk0Y94kH1gr7PT0zk51n16O483CY84l44FgBNU7qP0tm1aNAR6",
    "7Qt0qx1rE2P61KL7kZ07f0NU4rD4rl1pHH5y5GODgJ0UV0hG57UHum1zu0766vg0Jc16n6Lu4uG8fY0n12XA7LK3nj",
    "9mB63G6j726l2vM3JR3FU5C547L4g902j1HY1Ul6lp1EU5S31PE1Xz0oL0Jf5PiBo92gk4Uu1Ff0W6BSw12R8ox2eF",
    "8Pp2hb6Iz0f90NS0A4EYi2J60Dv0Mk52y0KB1Mt3ug8ZI2NC2hL3JR7BT9dl40d3Wx3SgBeP0Mw4rw3GZ00n1kg55X",
    "2E705f9y00mc1eOF685627eA0aa5l23Rf2HJ0lt3Ht2bS5aS8Jg68f08R31j2Yf30m8gW5X52gE0sl6md5fr3Kh4lN",
    "Bix54B1Sn2i26s777P0dQ1h75Ig1oA2nI2osCMK2cZ0H9BcC7JNATD59c5xq1gXCvq7KF8pA64C14E06F09U7Ol41l",
    "14183O2oX4CwNhf0Yz1zk3oQ2TT5m51tU6uH80V0qZ9yC1GZ0qu1NE51S29k3smFqs1Xx8cA5YK6Uy1v73HLAWA1Fz",
    "10k7V05Yg3s76WK2uf6mk3XN1Jc15A5Vf12o0PC2PV0B44gy8pP7Cx2Iq1Yz2y99611PH30P0yy7ox0BRCgR0R41PR",
    "1TQ2GN1Es8sCN44HdO1jb9d51je46O12o1oA8ZCDt10wp2PD5c806X6P55kd63C50u1H52fu6jf1o68fV24t2934Qs",
    "9pQ1QN7ic3xZ40E1h24iw4ZP80I7r0BPG5Ti2ic7vQ0I90dl6VG6dD1M94BL3F21Pq2r05M4HZg0pz63m0xS4F748z",
    "H7o5YR28Y4BP9yg51510lBzq4kP4KQ3Uh0qj7Jw2yq16E11dDw16Kw4mt5Gd5Yi0oi0iRGNsZEk9EF1wi0Dx5LG2Jd",
    "1dB52Y3CR1z12104u615C2G97f91pl0G70Vy3qU1yK4YT0suAfNBIw2hz1h6Gup0w40hX0Am4610cn30C30D5zXAXE",
    "3ftM4B0p16oT3ND12f00y1UM0dZ4Di3hK5NP0ey2UK2d3GXX2qE4yu35W84t2Y08uYCi8AsBK201ds0lL2dLE3d4K1",
    "5e76LC08e0zO8VmAiq0sO0lPJ1f5vx09Q3yg2Ik5QeAE30E93aj0IJ5ZN2QfCzl02yA3G6ea2Bz91DAbs7Qz6M13DL",
    "1JC5gL04A3Ap0Bq2E954L53q1kK7X22350N82rOBsACOD1IX2wR5770pw4uu00Y231Btj1b3EfA5xZ52x0Ss2OD2ZY",
    "2WW8ss5xw3fg0jI2J60DIEUq0MP34q0G14mI1NLA5O3lp5YP5Hq0Nf64f5JH2212PX4pw2gL0aZ0BJ1MT41l5HKHGO",
    "3i717y01d2jH07P1AC89I8jQ7wx3EEGto62i0C503c9PN1Jq0I41cqExE5Nj0g20lI1iOAMb9885Af01lAThAtW37r",
    "75s3Dd04u0173fG0FK04d07t3E7A2l1St1H99AE87g9Gz9Bi2669Yr2CR9ry1HH3xM3cy7Fr4EI2721fZ0mA2S34Ri",
    "4Mr3CX0vJ7Q40um2Nm7BrCVbAjq5Dh3Gq05T0CK0l4Aht4QQDXu1QT3uh0Zr2PE4HM1X72HN2Xx2hpBAz1lx1Z62gk",
    "6Ns3t13ts06h55h2kb3RD1O60n65rDEab1vG0eu0572pp5sT2Ow03m2JX2db09C1ks3Km0EC0bf1GOECf5hw8mMAnR",
    "3OcGa764W3sH17p1ti1K50hy3PfDGC0TA9vn5ogBMI3Or2uE2hxCD52UD87M3Ef21P0Rc0r100P6OB1yW3l976R19y",
    "0Wm6uH2ys0Rz6oj5bp0IY4Z91314Rp55E4Dw5aMCU80xo6CMA362N91BZ23E5g73WY56045V1S80hC0G02sF0YT4AO",
    "0Xr2jf8oL3wHGFD6ge31X4k51h52j20iO0z92hR2Nc2HE6xR0AWAy512x4NE2Vc4TO2K151C1CQ3Jg2Gl0i77Rw00V",
    "Epa6AN49GAFs9sM8rP6yc0pp0Be7eXSEC3IH7ND09r1Dc06p22A8nu4xC6ej0y60a50aP2k20o834P0zb27046q9ut",
    "02Z43C2XQ1nf7Mx20eI120dK2H62j53bx0K702r6781a60yM6OV3jg2zC2891pA0HT2Qz1fU50C3fR6DA4LuBjMQxv",
    "5R73eS0CEEoy03J05p4oe38409e2Cb3CS2ex9Vx33s3G229K96j0V81AF4K43Wh1eWKIK2Fs2fW4LV0Qo6ZXC9g0zZ",
    "4Js1gf3EX73c1vE5L60cvFWN2FH19f4NJ0ct7D106H2DD25O1y84HQ9uG78m0JW0SA2v8143Cag0Cc0uk63p1jdC8x",
    "0Rp3232s300v19G0Zw9ZIBaBAJU5a804J9aW8yb3uF5Da1fU51r6kh1Nc03d10n3Z5Bkx4r90ai00V1eB3s00GP4Bb",
    "BvsBLg12t1p80Uh0iA25J5Y95yoAYiHpE2bk0Lw4vU6YF0iu0Fp5TN7H3JOR0Tk4N43Fw3B812143s4Tv0Bg60T7lJ",
    "6uH0yi0ZO1eL4RG33O3Kj1Is4oo0nF2AJ4hQ5ZT2SB1x233V3Aa4JL5H21sW8MY1LI4tZLGe3a149q1YU0yO1zj07U",
    "2Bc1kw0iY0rJ1Ux5dY53Y4ft5z42yB1Fo3KI0U86vu3gx2EF1PZ57vEBG4NiA2K2bm0gx0OzAPABu03Ju0ar0rPBq1",
    "7t9DH809B40D1H51b31Zt35d5Bb44m2a23Og1sy2pC0S71N08zA4Ka0R58eT62G3WH2YFG3q3Ob1G56af2kt0Kv1oo",
    "0fy0NL0zzIuc1CH3ZQ0zq1x53jk0MF5Yq7eL0yb2WJ69O7s49d1JWi3Fr1wL0WwBE651l0bR42G0x32ov3XS6Es3CR",
    "10K24YBwGEJt2Ge00K0jYE8c3nd8Ve42NChK4453LM3OQ2GM1a75k80FW1of6la8qoBcz6fx5ZF3YkBBB73LAXv1Nq",
    "0aS9LW4bs1AK2EG9qd4MP2uc3ei1J927t0Cb0PT1kt2se3VA5Ow3qb1kZ5qN34868a0O81Yg5mdJlu1HX0us0HB4Ng",
    "4DS3ST9xC0tv3IZ6Y06tR4Sa2Qb1FDBiJ4131DQAL10Q50MA0bz0oi4Ap1hm2wv6N36qV24N0vV1pj3WlHrY17D6mY",
    "0QPCZM6eq30c8MC6gn4078d914L30F2Tg3Sz5up6nL5oj1DT23L6Eq7Jk1o21zqLcs2f15Bv07W11T9T169w0440ad",
    "2DnF4e0Ek3eeCo32Rf0jB7lc2YA9ceAeJ41t1B22b90ME0gi8nP4RK1Bg1ve1qxAB417m5vQ3NA0zU1Ef1etAHX7M1",
    "0wi13n2OX2lL0081Ob8cN2vhAsREXcPvU1b339l32g4Bt3c0Awe37rCLS07h2ezDxSImj6QaEEk6P90Sk0vN4aGF5o",
    "4AfE8F6bN6aR2iO01h2rH4RV1Hp0y97Dk3YQ2Qy0XW0sy2f1HEaD5S1Qn6vt9oM9En4se01G0CF3da19n0JL4x72S5",
    "6ou0klLF41SF5am0bVBu82l94xX0VF3211eW1Dc4GN3Dm6M50S514O1Do32S0He1CH2JKApT24A1ch1sa8Ei7WB0YT",
    "6Aj1eb2Wc3BI48G1cl4qf0Dl1HADbG0xVCOU2st63X3cyB7g0No4kQACb33v0CF0US5IJ43h16S3tb04e85I2GH1QT",
    "0CC1IK0k05qx2IU3uu0gl2Xx8Q72Q26Ni2gk1MUG1i3DI9t4G664rY4IJ3z22c585R0x51u112I8tJ28v0uP2xN34K",
    "1wH1ky71D00B0hi3Vx49f0Zv25j7I80dkBnK1gi8ay12P5Ig0yRAjI2r90xl65C53f6pC3Db1E2FkT33t7GRHcA9tZ",
    "DYn2w47fe0wa4d82lo49B0M39284Fa2s90Hm3Wd5Ds0zc0kz0YM0Kn3G42p20Mj0b57gC1oa6VZ3Mq8Cg8aC45VDHw",
    "1GD11q56o2scA7m6Wb1Da0qP2Eb2qn0o952vEiV5yP5dN2WyFAC1l70ha1ab7AA1Ct35h0MK2KU6qB3Iw0OG3Ua8Mu",
    "Bjq0TF2Rs5Xu5bf0im2Kk2MU15X2SQ2Ui00r75r4QI3Sh2Sz0jGC0j6on0hBC591Zh1Bf2gt2uA0IJ5bv39v24B0LT",
    "2DB7fR2Vx4VAGez2UwGD0D1S35U9ayAMc2PD59O0C40OA0EF6VQ2220Zj1ww0ts0qp3Ni5zV3DX1Et32U4h358604g",
    "4La20SBWZ4Zk4PW8a60ZK09F2x60SA3V11Ss3IG2sZCSN5Zf0F505O3iZ36N77p1zm0nL0xG0Bp01M5Eg1Py2VN5JN",
    "05h4y70BA0wl2V20s41eW1Dc3YAGMR1kH0gP9ot3Ls0mz6Zx1RP1b13zsALD1Wi4ecCmbGlK1Q80Qq8Zw2vu3Zf0Je",
    "7QB4ge6AQ0HI2BO12UCZO2OL1aO18h1673PR53w50h8z48zM0xP1DO6GC8XTIB81253H02Nw2ps6RM03m4fQ2rT4a5",
    "37Y0IqIbv8JS0ai0UU0i533i5iP2OO4waC3v0nW60N3vrErp12z1HM9hV0ht26Z2Sf1SJ3H01LQ1SS4nn1dZ7W54ci",
    "1lp7b964B8Dl6BlDPq34D31q7BF0cW0Vx5dk5NN4jL9512Iu6MN2AJ3mA2pTB7yBNZ1NO0j32Zq5yQ7xw4lp87a08e",
    "8Wb0jTH1C5Oq1Sn1LZ7l65ZC7MB06c8jd8Fl5yN2aS0jD2104L239N04W8Ao4xD8wC4B98o1HWn5VS20bBzA4z940D",
    "1eW0Aw12gGVv3OgAc8BG02K20Qd5sl1wX0iOIaZ8HC02c56r2eI5uh1Gp1zu4Pa28ZDiF1lL7ns4lT18p5XU3iW0Z7",
    "6Kh2bp0YG0uX0th03l13tAwQ2V13z23sX6TR0HK1ds3Ef2gA2ruB502gD05l0n12mL1dq5739Ho0201010PP2Hg8kW",
    "66V1ne3zn5zO06J3zN8CJ4a12gS1Ld1Md7Mw18i7co0OM0Bp2tu0Ty02B9vR5rq6fv9p73Tf0de2ey2js2m83as17f",
    "11F6Zl0YI4Sd2E95c57bk8Aw48ODIME8s5Ms71F42c0Mm0H70cD1Xo6AM0On17F0cg2l64H67Lm5Kr4Gj2xF8mB8Ol",
    "5J20jd1PK32x2sB09Q58r3ZP1Pk5soCDM4pg0SQ2tE6GlGPEASe6iN1b31HT203DKD0LW0uO2Jh2ba1qZ0Sp2qO02b",
    "2WR1DH5Px94h4foBxW17W0k2AIo5Vp2lZ04E0XG0XP02c6Um44D6SUBZZ2Lr25u0f096a6xs03AGntJQ10aH3w7166",
    "7E1Clb16G0a40FF4hr1L71Fz3F912r2yA61C7XX2R90GXFJU3Hl3j419f5pj4Qn1JrCph7G340U1SD6GE21c0581o6",
    "1fY8RN2dO3Su6R32kY7i150C3Bt1VX0dq0LG1XU16q1D247V05EA7m06J5gLJob2ck0651z75dt5tQ5Rq0PJ5Vx1u2",
    "7tV4HQ85wAp90kN0RF5AW07n9411ML0QC1x42Jv0cw41S0SY9mP1eUCHD4BQ1nU0Kp15g2Jv3Y503M9DQAFO3uR0SS",
    "6Jd1Z81IS0wDF455lb2En5na49Q44f6wS13a6gK0790gv0LW0Gb3ou6n75Ia14j07W4T78AeBHp61d2qp0XZ25wG3o",
    "39R0qL1Mk13lDWH4dT0zZ1F10zK3D69rh0k2CLm2jY4Bo3U95dZ0AM5yB0mr7pO4Xl0VX6ec9ck6Nz06W0Tk2eo2WK",
    "1M72V23uw1eS2As77C01M01W0Yi2Hz431ABD2md17N0yM3Wp5d27UVFTU0CF42kBAh2XB4L23Dy3g13Xt768DE10QL",
    "6Bc1bK6YR4JV2WM1XB10m56X4Ui7cc0lK1vQAALE8n7II0ye5SR4rx33V6S45tLL0E4Pj1kvHXA1eGBg04Zf3N62Tv",
    "4Ix2iH3bu07o1CL3DF5E65U08D20HA94q6OG1FU0kF2tS2mC3413yn1jI3Wi3Sb0Ne8Yu42i1m91De6MY0ulEMB8br",
    "0NXCRVFhiHdS2o6EK67mi2QE1zu5Rr0WM5G52ax1ku1Vf0Hw1eF0z04Sg7qQ00y5VT1vO4S81Nz5ax5gw1ZM5uJ5ik",
    "4VX8EU3Wc2yI0cQ2pD7Tw6W09A07vR3Kq8a80cP13u7Jv3aT4et0B22Es2rGBrU3u77HK3Ts1dBIIC2hM41w61N7On",
    "0Dk7MF1Db3W53SVGCT0Oq2La1HR07h4Nx5USFhf0LO4gX8YF8xF0oO3u715o8jN1Nj14G1Ky6oR0SF9hB6Df36I7cX",
    "3TR0Y84At4hR6Fv4mM0Ax1Ld1LZ8cQMKBDXl51ZBpf6Bf0ic6BF58kBBx32l3ld80F6Zw8Jh1NO9yg4MS2s84Cc4Jq",
    "61H1rt3Uz08z7Zd2k86uh4wf0PT1Pk0kqC4u1Kz6uR35t7gz02q1YP6b81Ce0Qw3Jt6twA3E2Wj8rb7gI2c83nO0Od",
    "1II2mC1891y441X4VX3myGtBEFm2iG0as0JL2z9CNwBE15sD01L7hR7gY2JM56M3tJ2Rw1MC2W887e1li1EF6Tw05P",
    "9XH0ai0rW1ayBQE5kOHueI2O4Xp1XY4UzBQb2Jw0KFDXR1YgG2K65mGro161B970qf8dG2y009T7B52gb0mm1zs5XI",
    "1LK7qP3ZX1c343u7x55ic0xo3Ui8IR8vB3s01632RH8qw7hn30y1JJ3zr2FG1xwGxb5fP23q191DPB0b9BsB1LP6Cc",
    "7nQ7l00dDBdp21o69f0bN2YC3o73Xj85b3PGBIE0ns2Mw1vO1mY6g65wN3Yn8Ih8Qf9fU1oS2EF1nL29v2EC24t0Vz",
    "0CS4eu8yt5Te0An88b6p20f7AZh46R8fB2qX82u14G2E98AuAYa4E54zm2xG47YADp0qC0Cx61t0rTJTe2Sb0Ac1eC",
    "5b01xZ3Wd6CK2Mj2dE4HV5Nx4DK1xy6sj37i3J52EH0aR2NM1xp2Tm02l0pp15geQ741J03h4Zw00M8dK6r25tD2c4",
    "1Kf35WEaq1Tf54O2gy3f90NM4av3YN2H52Ee71K5GV0Ww0Yh21QCbr06G0yZ1iYATm16e2J70wL46f1UZ3uE3v41Ga",
    "51A6a1BHn0QJ64y5E1AEn4Rn0M44Qy1is0qi1423jJ7hJ0H81v4AFR4ph0KZ5Ml1Ji5bI1o20a52EN02E9o70Ob3rn",
    "0PL2T24vM2Cb0MgF6A1JHBS40UV19SBFg18e2ZyAAA07q0ed1Xa3Fe2bVGt90AY5RK1gf3yj4aA5RX0GrDL71Lq0QR",
    "3eF1vNIhO14c1Vu1U20Nz1nq3er1XA1Tf3Ny3KfKzk3AhALL27T1xz9TY0mY9l706a2XK8Wl1tGFTn0s61mD0602vd",
    "0Th0wx3kC1J22rK96c2EU07r2kF0CX5d32yn1V26Ax5IiEPv0q50103qd5S171K6zN0w51J01pk0eB0Kj0KE03i5Qs",
    "1z15FJ1Ao2HU3Qn7sS1h75i53tS0DM0g91XAE6M3hM0uH2Yx0ZHBS90rr0GlF4E1x3DZE6Sv0ax6Sn1hK0U85ZG0YT",
    "01hBnY1S32Xm2fR1rk5yi0xo21j26U2Sz4fu4yM15X2gV0wB34M5cy0eZ0if57q29O1mMJ2B24P0aw9vc0Ck28K2OP",
    "5fx0Oy3Sq1q65Ay2Br3381fA0ma1DIDx312s2jQ1Z500l1f574O3ON0cs0VT2rD1Pp6OG0jw0kR18H1ll5YU8m01e4",
    "0Jk0Q827Q21r7gvBSZBsf0zB1Wc1e71KE0g88oiB6v4qn0fy2HT1DZ3MEO8t3dK0qx1lP53l89105p0Qv3XX0ij4wq",
    "3LyKVwJAb33d2JM9Bz5Kt0Oq6el2xo9ghEfP4p52lb5tZ9ZtFRT0Kl0Hj2dR2EC1XC0bV1MN0gWBIK40nDWm0La1pe",
    "4WF0O70om4mJ3Qt16J2Wo09w2WSEjl0TOFHR4DBMGW0Ct6Q11dl3wWMQr1Uq26F4oDFBP2cADRw4px3JL1kg0iC4fl",
    "3B00Eh7bA1Bg0ZR6IO0XM4OgAc84FY1Ie8Ra6QM11aIqOBrU2A80ko2gq6ul3dg3kO0sl8x36q84tABGa0gx4ho2BB",
    "3nLKBq2sd1M12os2SU04C2F16n5Dfc1dq0TB0VLTc3BhCIkk4EE0TH47ZJdR1oH7wR8cL4Dm0CG2yU1tY0dQ36C5IB",
    "8fH6uH17E0QH2K25TM2JP3P5AvS7P61M95mo5oT6S307Y9UR0jE1L5BhJ1sq42h0Pl20g8cq78B0US3Ka8me2jQAVM",
    "24w4U12OI2aX0EA0B407U0uX1rr28S09g9Ow1q57av2gO2X12Vo23W0fG6b40oE4Bg01Y2R01LT30Z2eHBVy37a3jt",
    "2kC1EA5RqJg01eq0O00U09c93rK1rV5v84N66Dh2jh0iw3Re1vq2dzC5l1RiTT21ft4LN6jf3V108d6px0Qi6tL1oA",
    "AmO63X1f53xZ5hG6VG0BW3BO7QT1YnKcS0UW56m3vr7Xj3Z31soDF20OW0Je2z122V4fp25BOwU1Rb08c2op6Fy2WR",
    "2Ze3fH0I4E2B1YD1Au8nm1Tf0088p04xA53708T6tU6Sr5R4BHB8Pv0Sy4qs1vF7SB1x50PfAxyGSI1Dn4Ot2YL1We",
    "G9m7Bb0A646n2yG5xB8zM3CR4mY9Dm5uH6nq0DC1Pc2T62yH3Ak1nC8ba58c3GB24a2lN0jP97S7ZA1fo3BQ0jt0ZR",
    "9RB7Ov0az0UM42IAUmA9J55z2z41iS2d10DP4VQ27q2FL5Dh2mU3UY0NO1zC0M852z6In01C1QuA0R0AV39t2ef1l9",
    "Brv6vX0GiDZE1EL9jm1G31126oB7uy24k2qd2Y91Ln1PG8aP2Td1xh2Ee0vB8ER1JJ2eQ6VC4gq8C31Ly08M47z9Gg",
    "4wy6bz4nx73X3fi0i13hp9nu0fZ1La6JSCUV5dH2hY0v20sl0QN0fw28M0tF5xRJh76yX5Wu0Dr0rW6hB2Pz6Fl31o",
    "0EP7fk5kj2cYCQi0ya0S81zA5qb2bF18310j3120PP3Is9rD5qs1OD55G0g56FDE9A0U9BGB6Sg2yq00q33E3wN7bW",
    "4b54kj1im2ss8dEFVZ1WV9Gi13d4Ah1Xj4bt0DB6nB1Aa9g11KL2Lj5ZP61PCNt10o02M1hk1Hb4Lt1BP03X1ta0et",
    "1jA4Q896Q12B1A52SdGDt0Ot9AA3M54Nu2JP2DD0D908R1LR0pA4eQ6hs12AI9q4i8BFF4ET2vC9XGFAQ1RtIUm0BL",
    "29n3a54ML0Uo1b50Lv1YT51h7n62rM1H03Tr1D70Ib5TdCkk6Tf0FwDgT8hz56r6Lo0sU27b7Nh8dU3nR56O0h04Q7",
    "1nR7Z220M7WH1FD0ga5bdDj92Sh8da8mm4a71iq3sJ5FkB5S0PR0TE5xJ6sS07s7BT0Ha4hu0gIBmI0fW5rr0F94D1",
    "FMN35R0sG0dh8Sj5yk2t99qj0s41yK3Eb0Q63TG6mP0sbN7A2l66t2Azj0Rp1OG9fS5em6BxCzq0SX1nf1PK5ZE1Zk",
    "1OB07m1eP8EG3c406003MADY3bU2gb15F4xI0FL01S2W78B41Aj7ot1dN0Q533k0GT5kD3U61bs4tO10L2mC0jj0wy",
    "Ct15gm8RL0xoBMQ4t22NrBKS54W17m45V3JT4kz3P804S43u1s92qC5e40goFccCcJ60n00b6hvG6Y22P08t6vU0Ul",
    "2nG0gn0MS2Ou1fzBJc4Zf3595UMC7j2nk2P0Bvj1sz6cE2om9vZ4FL134BHSHyo4oG6l05Pi0ED0Mp4iL0bg1XJ04M",
    "53lA3CLwI1A00MJ1rX0t10iK0BO4mk79e0Va0Iq2zn3f42LC1mi0gA4p06af1rt2ye3sG17vCeV0Tr6L84Fp0wzBrO",
    "2Zd8cs68g8OL6KM1NN4qz1hP9ph3cL4k25WV0sm4yH6oVBKG2Rf06z1wG3ik0bh2Ng3mw0ry0oO0iL0KxBjp2ly3iG",
    "8s214z5DYCIn3hY0Ck3RP0WJ0Ou5HZ6ZR6g25Ai2Sm59A6Eg1xW6YA14m0yI6PZ60A1Yp89I1Rz0Ih1Q73fQ2cI3yV",
    "0u04mz0mc1eO3ie1v51j71rU1RB35S1y627e1NW3jm0tn3yY2x23OaAWiAjo51o22N3iH0O12XDCQB6eL2ZZ5UW19r",
    "A6w1Ml8lL0zK5Sm2jY70V3j95T91KF1YYCHx4r90ai2Gz65B9Cb3t21yU3Rx0BD7No61Q5pq1lT6E46TQ2561NOEa0",
    "8QW0PD38e2Ub0Vn2wW2foBG87MKEIr7Dj72M1BY2Nl1Ke2oC0RZ3bk3NY3Ib3bg3CR1mv1qW3uyAR00bk1JS46T37P",
    "33110u3mW2fI2c232y0Rf2TG4B228O5Mn1hP4ul2ol0Fq5b246p4Sw5Zz0YM0FVCNw1MZ7n08743VK1cO5cW3Kj6Ls",
    "69MR9q17L3WS8lF7cJGipONX6QN0wH5ym16O7eN0OF1Be7wn06P1cj4ZL0gm3OgKI60yp5ZA0co2xE6H94JF9SD6eT",
    "18z26b8251VV3CS1De09VAsj0aM4o73Tu7ic1cF56s2vi48X0Gx0UGCOt2A008t7lJ0BwAumBTi8Qp0Tu77A0dW7XV",
    "6WB2Ln2PjCaM0I80Np5i620O1Nl0CW0JEBVG5B62dh0d52BdDLJ2yT0Hh0kc0Ad0Bu2bZ9VZBOh3TLH3S2KK7IO5BE",
    "4Vp7ug6tW3Bm0kR4se2Z5BUf8l89rz83y2vN0Xd5THMSt0J11Lu0WG1Mo3Ra1Q145E3iR3Wu5fQ57l1s51Vm3OA0Ul",
    "0is7kS6wl0lZ58097z2hz4uj26iB4d2Yn1bj8K61ZECJn6Oe1fL2gH0FgHwh5JCFNG4C13HB2UK0Id7ky0IW09A0GN",
    "8TL0ai1E072S0rJ2EQ0tj1ppHhFFJr2RC9sp1D405p2o42Rd5F14Aq2PD11eBBB57X2Xl2KqLwYFfi3GC3l8D7o5AG",
    "47Z0VY7SY1i71BoBcF39B5bmBQcBub5hI30tAwg1oP9s30lF1eS59T1JC0rL85b0AE6Jy7qb7M10G7IJe1XPA5S0J9",
    "1Mo18f1Nf9uZ0T5AnA32B6oN5U763m1StCUt0KFJMFJbl8I93znKB22T22gaCJN60m5K9HoW1Ul6w94JM01d2qg0YX",
    "1tU4e52DO5ke0YS93e06707A0Th2sU0yP27x1xY8gnAMJ0SrCEs5rsGSl8YJ4zc0JL5B3KAl2c7DdF3jn4sm0ns2Vu",
    "83O5Rc2s84llBIA3qg3mA0CsAIA8NGIvB01e0Ka4EG6L20qT3hM2bv1Ag3Pg6j75U22jE3co05T0gz0qA3eQ0J57D1",
    "6Mu5eoLCq3011HDAYVChr1QT7nA3P53nN0fj01Z1qf2xK5l23YC4xJ2gk4UM9970OK6OA3U83Ad63GBz82Vs13O1WB",
    "1HU1Dn3mV1cT4mf1SK6QX2571T26hT6t60c95ht1l16qz0AM1lJ2rC2hB0EX4WJ1V30Ch44e2E8Ah86cn2Rl2FX6Xw",
    "2KMBx19S32dfEyM9Wa1ZV9Vg8110gV5nl2Af1ez9vFEbJ8IE0sE62f92QBD223o7yq3Oj4g92p20xo02G6pO3ZF5WS",
    "4qq8Hc3yW35k45V4Qd0qw0YT7Ru4py7P545sAYc26I5D10gWAFo8wQ0ZCEYoAwm7Gr6PF7IS0QN2wK5w30Wi1jZ8DZ",
    "3dv6Wr8860kSLsd1s80ip6Ot11b8OA0Nx5QQ0VV0Lf0Cb00K3PN6nW3pH9hV2Ku1Mn1mg9XT5ZZ1of6Ia43U8P002T",
    "5Jr7ek6XZ1cg7fq0QB2t87ak3p14De13J3RJ5Mv3yv2O13j72Gj0HjCoI0J53xJ3U65Un0PF8Up5a63AK3KTMc43YX",
    "8DW09F6Ae0jd8VV0bQ47DCCq3Cy2IN8Tm2IS2By65R6Es1K026x22x0OX5pT1eW1DcDFj1QL0JG3uf10c9w21k90i3",
    "4OT3x0Hqb0QQ1ke9nk0cZ2kf2uz2SU7EL1xl00V7Yj1Q86W390I5xT0RQ9FP2wb3VA0st5Yx5H92LY04k0oS2VABUV",
    "AVY1n76WJ4X33d01Bz1JP2JIDFM3wp9260s01qiB9y3Yj3nG2BX0r15970Fq5GMAIW0Oi3gd0lP1BY4pw0n70ai2Xy",
    "6Y40se0DY9600dC7TB8roEgx3EX2KyBC4Jat41O2RV6e41yr1RH8Ec0X55n3APS62M0Ct0436Qs2B041i4MM6pI0g3",
    "1OZ0hC6Hp1bA2Dj4RG7CN0Uc3Rm2AH1fM0Ux6q30KW3222WT2RX2Z01Xm2WC4CS4UX5t717g9xW3kdHGs2pu2Us6oW",
    "1pZ1dp1KE0iC3CA3wL4TH5GA26M4ip284Byw59W2BUAZg1h29o71XUA7r0m70m3BZB2bx3Di7VwCzD5VS1jq1fz6zG",
    "0Lr3Ep4z91RE2Yz1rz10942GCTf3Og0Xq8D74b73IMBpa3YB078Cz7AEd0py0uAB541uv4DH76YCo31Wa3FJC0W1pX",
    "020G281bo1zP3lZ06l76L4yj0XO1yU1en6yy1Ql3dh6H60h99wa1fz3xG50O0JL5B30ul7oz6OC8bk0lFBUF9iK8nH",
    "0MY4Ht2iG8Ve0Zz4gA6GW85O1kX2d0JXD5AP15S01E2OpGUn0NxGsM32F2D31tQ8Ov1Kt8Bl7zy3k85Lu2AzKpd3Qc",
    "2653rk2nM3fS8qP0Am5KM1tc5wM2pq55p2LsBRz0wO5CI1C00870hf0xT41g5soCGy5EU0hQ6TQ7STJeg53v82q3Wk",
    "2Pb3gE2U40MdBMf3cK13Z09i2eq5wL6zN7Qu40w2Fg0Hy1vE3Rd7dx1bWBE10FE2hZ9Nv3FI2VH8Uz0Gf1Qo2ku1Yf",
    "4Xl30A17y0CO5ym7iS1sw08V3Uv0gb3RQ0zPBUo5Cj1dm3x50PA3SwD0xCpf0LG30P1LR1LP7dx0IR2WF7A08hw2xB",
    "12P1uF4Dw0OS4WMAXy4Zi0d50Yh57I1ON3lA3S80am0ME0gi2aQ2yXBYt15A2Oi6zl0mb0iF0ax3eY1SA17g2MN036",
    "0Lw07N2E90l70L02IZ0vB2hk1qe4Ip0iT8MY4Cj26M0641y467Z2n60ab6y94EA1XI08A8Dy0xY3j66GG0Lo4wd3dq",
    "GpdBJY25z0cR4c53or2A45TE6tS0cP211BwR8jeC2h1ST2mM5Gt1ER2e40Jq6hk6Yg0065K604R1s51jSA9f45LC74",
    "1Mq7Lm2mq0nL2Kq60q0Fw4IJ2PA51A8By3xh07o1Y23SX1aq1e20cx1LB2KB36s0D92uh0doAUJ5lpESm77p10H4LF",
    "12e4BN06C0u33fl1m96LLHwB2mN42h0rp4hA6iS0l40K3AkX1vd2dh0tZ2s8G3V3r631q0Tl4rK9ss1ei4FI17v4Eu",
    "3F62hK0kp1ke64g0283aF1Hj4IBDtn4zb0Op0f8Fc82st6cj3O42m440s7rb8h02R43bm6130jS0ai2Fp7iM5h33gk",
    "11E68T7Cm0d91MU1BTATR6kQ0XX29DA917CiIXJ0IRBGxEyMINn4Y68JE3Dy0KG5nH21qKrZ0Jm7Ua04P36y3Dl1oZ",
    "6zi1lK05x1KH5EQ2DR1420Dz1G4HQw1Mp2zC5OJ3kP7Mx2VdCvp8EE1v21CuBmH9ry2yI0WU4kl4dC5jhIIw6lW0RN",
    "27U4aA1qKJrD0Mh1nP3eS5G22BABac7Bz0eR1AvC715ax2Aq4MJ6dS0ih0RY6A62tw0b3Iqq5w70Gx8O82ow0Pr0Nq",
    "2nj0D7Qw70Vk52K6Zr2oS1943J91WE3qx3BA21O12y4kG3Jq14d2SE5Il6Ev3Es4ju0Ov2hMGhC0DK0lKAtd4DO2ra",
    "CMXAtv4o40Kb7mk7fR4R901H33V5ir0ps87N0oOAKE3f5OQu1viDUa1be87l0FJ8Sp34i3IUBoQ2hY3E2BGC0ZNDwS",
    "3h31sWBpf1d65HB7dhAYB4O44Yc3pF0jECDU2V56ew0X41tGBZo0s42s89Nu1Of0uV0th1yF0rC2NU0C21utCzv4NW",
    "72LSAa7bZ0Ir0Mc0Fe1cp7jb5bf18y4CPCfw6dNAsg1gv23p05y4A51S63fk1OF04k5Hk5TL0sV5bw4Mj7ak9vy0uD",
    "84w7fv0TO3dO0xI3Ty18a5zq3q93GH79n16TFaN0ky1KZ1216np2OlI1d0aiMMU2ywXR20H53e34JOAa70tA40F7QI",
    "2lM16ZANZ34n3Ny0kg0E53WFE3U55h37o0km9ft3aV4EQ0R52rU0GICcg8hZ8OX0eC2AJ4p8CuT2o82F46KN1NO8vB",
    "0v51sB0VrAfp7Jk8zB0MU1dq8Ip5Ao1yn0CjD2l2B00Qa5ZC7MB9X41XE4r10zT0BE3kp2EM4GA9PU4o97X0D7L0YK",
    "4f136r39Y0IK4MI5a89syDfG0ZJ3qj5oj0WT1fZ03p1W4IKi8Ph2CRBG01qG0Tm0DcBzN79z6R01ku1GS0yF0vMCuu",
    "0lc2Fa6Os4Aw69zIKF5hGC2h0jy1wH2Zh0uZ2Bd7vg0uf0KJ1xf520HmJ21W3dR0vdALd0o45943iK5732eC3ji1dw",
    "4nO1Jp9Kv15q1eK5KN3rr1e43dd8g17Lt4kL1220QU11r12I5Q90270G9AzJ2f33uX6V11Dg0Cd0p2Bcg4Os5Pb1ne",
    "4nB2GB42V1Kb6oh7dk6sn3cH1ln06B10gANa5DN0ooCxv0pf7gK0k229k20W6ln68ZDSl0PX15C2Xn1FT2QF8mh12C",
    "0jz0GI45a1K93zw4L405e1ZW2zb4BB2lj0e52Nw8Ra9PD5wcHRe6UU1H8AOeASr0KnJaw3BG3qh33G3l34rh28L5Rr",
    "6JT7pp5ip0Vc6Ji6lK109Fb22fMFsn1VZAYG2di1blBrU0EU4XK1gh00y2oJAyU1bF2Su05b19o1GZDrk2Wp0aH7mz",
    "1Of4jOCPm2YE2mD3W7BUF0s69yg8z250m9kh1Mc6lL04H0qn5M24xG5tR6Q100M5Sh0Hq9pk14v1502J20c21281hM",
    "4zK2Us6Nc0jr0Hn1N10KlBAm7NN0Xv7D61CF0DM1OIA6T3bT6QB6jz7FH04Z14377q1xo1gP5m84S69aD7PW7XK0xC",
    "5NMA9C4tY8pH0e92NGADN1tm567HNF0yM1Z04un2Jb3N46FX0OJ0uY86b9Cj4tb0nG08x54I2eq7p45HU2Y929c4s2",
    "C7l16Q7bS1xZ1gh1l30NA1t13xV5pf1bl7KF03a72J0e209z1L81O52gh2Qx7FN2ys5XM9VN4Tw1os2Ct2yC2bT07C",
    "BV30bB1dH6EL9rh4z21L51xf5zB9EM3mC17728MJEY6Qu76Y1vK4xqC8V01j87u5es0Yi4Q01XpKAM0GZ0Jz3ru0GN",
    "8CF0fEBQg0WA23L25O8Wj0OZ7Gw84X5al1QP4jd0jQ01d2rI0kI1W91XC2eOBIK6Sb1Mr02A1e95Tr2Xx1fQ3R74pP",
    "3wM3LZ2gk70d3Uy7zt0enCgE41B1ahG9u6RuOkv04t12RM1r4u2Cz70uu0iY4Uy1ni89I5qr3Lv5du0sW3l00QP3Q9",
    "0WR4Px6OG15f4Cn1RF0M42tV2eh1Py0sf1A72WX1s40aF0lEHJU0Rp4y80Jk3ad0KW13e1SZBkeB4d9yf1mU4wr0WY",
    "1641iO3v31ST8Cz0P53ET01nALU0XG0k193t2io5XL0K42QE0OF73W1VXBUn0Zo16o14E5oq0cb2oW1r75P00wF2DK",
    "3mU0u25do14f2b01ud5btCCh33n1780i65ylAfv1E20gW36x10c0mR0KL8uK2ts3ZB0aA8JU2sV17r2T36pO5lf0Ts",
    "0Rr2Y036C568BrU3H200d0cS0eU0Gi0nW3bP4XC01y1dJ8u96ST6Uj37G1rV3TmEeZ45L1p11CJ0s0IKy5OU1zz1SY",
    "0Y6Aqz9ou3EJ4TZ5Wu38o3Ym2Ff2oh0gG0OJAeQ6GX2usFj7DQT4UD0Ic0tP0FY7qk17I2OX6B569X1L62Dv1FR1HY",
    "88D3zw5Uq3pK2Z3ADI12g0sm0b10gLCgs1ev6GZ0di9uX3Co1dB1iF1do6e22Su8XQ0bZ0s217e1P449H11z6Dc146",
    "1NO1Wi9g51RX14M3Ua4jhCRh2jD08z0Si3Um2pZ0ma3xZ5dP3jx0881mj4B76je0Yy8q43551x656J3m52Iu3Tb0sm",
    "3Xq0QC1L88K39hm2bc7eX54i0Zu3dl4qx0kY3ZH09IAAi1SZ3my3NT0Wz9fF2o87d49qK0uD81z3MDDuI1mY2Rq0gM",
    "2HQ5569OdEHy4FZ18c0RO6Xe7YLEbQ2Wm40V1Ab9ac0xk19U3an5izMmf2sl3B12Pf1fU09mDJl6H90zW2XJ4Ob1z3",
    "3iz6y46txBVMASx24a8nNEoN1Qs0jt1pz1m01MV1G24OW1PW0lEHjr3i01cBAaB1pF5lQ71k0es4O93o301u3Pi0Tb",
    "03G51H1DQ8aE1sk1ZY2nz3Az45R5T18a32l64BD39J60i2xg3eu35a4U2AuQEaz9B06w95s41Ud3zZ9Ct5Yi6oU6HR",
    "6uw2xD0b85ee0E2AkK3Rb0Cq8D38aL3hP2Yb54G380Hx40271Fg21dJmG1xF7TS1E16hC1gV7lS0Ti0rW0bS0NP3YL",
    "0Lg1Cj31Z2E90Ht3Dg4fL0ZyH4g4ks4ZE1AS61B12r0401nq7eW0Hz2PZ1S45uu0d20SO07b0J47W38Nk0Yb00oDGl",
    "2eg3Lm4G514c0B82pn1tY0Bx0yA3bh6K16Vv0Ir4670Ai0S82DV0DR0Ge9pj3r51Pz08a30e6mv5hH5BK11J0S44sU",
    "6LQALI0xU0c59AeOKPBTk42V00S62n1Y20Y1FPC1Pq1fQ1Q92Qu0QP91uBwr39a79x1gj3uE5sW0Lj1Ai7ekAz50VZ",
    "4p72gVBr50pF4Wa3DdScG0bF47CBUz2ny6ly5yS1jW2692gw4Rp3q509x5cn36d5ot4Kj0UyAqO0Fw3yeHzr6S90oF",
    "3yz1z77YB7GXBiN0282ll0TN2TU3Xu2LK5vX4ry5HV3av6hqGBE2CE0dv4Rk0pM3E335N5JH9Ww8YZ0YgBVG1KVF1p",
    "1928ifBql0t0Fn80Pp0MW2og3Po16R2dl4z9GZr0DN4xt1wh3eh2jR44f6Kp4mi0nn3Kp0LD4i12IDLsa7BT0n886z",
    "0ac3Qn05C2hR0wd02o2y07rC3gn1eJ3aJ1SN2UU0AG2pg5Ef4vp2MO2V270N22C0MC3CRA041Us8Pf1CH5X60ShFwv",
    "02a1lq3Bo0nE1Y68Dr2CxFrX0xo21j2pH0yk3wa1I55B3C3E0Ja1R266l4uF6d56sI0co4Ng89n0BF3kF2A88hl3Hd",
    "KGi1oG1SX1Ty1z4Auq0nt7GA0Jy19v1CL7wD2j50NZ2wY4M12Gl2g98hC7bO28w1sT5BFE2S34UDUL0I0Dce0DQ53I",
    "2eF0Jg0X78H36sJ9LT1fe8Ln4Oq4Wb0bW5850FS1vP0OQ0me04C13qA5e5q21SCH344Mg1Jt3EB0612cy1IH02842a",
    "0Cn0p70HF1sR11rAju1cx4Nv0cG42S8c32oa0bJ5St55r0gm3Jg8Tj0YKBj1Hyv3h38qI27f17X1Nf1o37WY1ZN3gv",
    "JsO3Ee2WS3uD0qJ0wg4eO4rZ3do2J3DBZ11P3TE9TD5G10mU1dx1BJ4Gj7jZ0pP2yw1Jp2si10aIEG1fJ3AK2Dr0rW",
    "0P73uT1MP51qF8Y14Z6vg0Ki0su1kg3oG1cy61m0t429T3B90TF2eV17f0Aw7Wl5ta0f67N32GF28g4uT17MCFoA4N",
    "3y98fg5Lw3p2EEJ95t7HB2Ke4RN2Ca1251uQ6EY6X64YxDEz3hW38K3Q11R80ai2Vs0dFNj700y0SD24C1bW7UT220",
    "07K1jh6GX7dv9dkLHf3sv63P7c57UPGXs5v92OF0LR7xn18f1BY0wF0ui38i1Ge0GI7Qr2F64fB3CRBGE3xB20S2gk",
    "5Ho4z57Si4aZ3vU4Eu2w74Ty05693d4ha1798lQ2eW2j01E62wz5hg3jH7Bu1Gx0gi0768Rn4ft2Qf6Wa59Y07d4bF",
    "Iak3Sz4sHCHm0Wq1uA3Q8DlkCAE5l62tx2Q13YV2Wm3930bn8HC84S2bY1d11UG4Cx3vD1Uv50n1s30LC33U1C62JV",
    "63b2Ie2SW0Oc5Z802j1el1gnAKcC7n0IG2gS2C53cK12M18w6kN0Dk4kB1104TyJub45V2L41I35Kf4920B85JQ7uG",
    "44xAB83Fr5gH1ns17m1tV0ik5H73Pn2zg5Dc0Nc1aF2Vk0pL77S8DT5kI0P125B56Q5rQ1hM6QY0Wh1wh4ox2xR7WS",
    "5qc1eGEW21MQ9qV3X7A9T0dI67N7Tt0lQ48z91XBqi4jK0d758X7HD5wv1ZP1cW25M1hd4x5312BuEAsT1yJ3GC1JF",
    "0y71ux0rt6Wm09w0rG1SQ1lF3JI5px4Pg9V72gg1n32zv0J24yp8oW11G0u431W0yM2DR5301heDjL8Ey0Qx2ol2Ll",
    "6Vl7Tq7bQ7Ss1VJ3fx1tE5zO04R20u9K90ma48N03f5bs0HK67n0fQCMd9S25RB2ii0Id0Uf1J72waAKN19f8Jw26V",
    "1piKpV8Xs1ty2Ms5Yq5DY3SI4hR9mk24k1Tn06J5m11Tl1uLAkk2W70rs0CnAZp3gY0Ij0J51Xi1rQTe69MQ3dC1Al",
    "0SK24V52G6b04iD08A2iZ13g4BR6qf1uI9EV2C73rw0u655H09k1ox3Nf2OE6hNQtk03k04f4xF2Jt2ct0Vh1iS73Q",
    "4Jl34T7DY50y41Q9qU3HE3ny1831Wj12d4hH12A025F7F9g2OT33jhDRB2Mc1jn36B2T01JZ12c1PG9fK2ss1yd6uT",
    "AThFZD6fq0Sp8I42lL1pL5UK04878kOB313AB8d4RV7jw4yk2kQ45V2aT1Pd0of1bs3Cz2UmEpu0uy3rZ5Mb0VH0d8",
    "1W27HJ0nL0qxBpN6Vg0uDHAo0aF1pE21w3Tm2fP3UnAba52k41k8q87G81dn1EL0VQ3ZZ86y7ie1gf8tH3Mp0OJ2K3",
    "2mI6YJ8Fb89H7YtEii3mz3ic57t45m0iV1Sf2Oo1oj0KN0G219D2oz23D0Ad10z7r51tq0xL41EM9Q0Qr8Eu0E13Yp",
    "0sG1un7db0zz14U88x9kbAGI1Qe0fS2AM2h72gk7L80B91Hj0gWA0x2P70XG2sg0on294FqO1lC50w3hY8JF0yv0RA",
    "8Ve1T23EJ6g44S5DMX0nd0ALBIe3Kw0cL8F00yh31u00U0qT2Ph2l68Hq0HA3W27qO2Yd00P5T51Q500g93yBQv81C",
    "2wI1YV2eB07G6Ri6Ll5hK1XB4iY4P45QP6Y45qq83n0ae0GUMlw3PW16k42R0Jz2f80JI5QB7hu4Wh2yU0xo5Y902K",
    "0Am07d2ir1a80ET3459tp4G74Rr0r02yf0EC45VBBo0ME2W540z1WK73j3mbA6t1j82pw12xCf1OpU0uu1CHBow1CS",
    "G3V0Pe7UB2Kx0ts1cU5uC4Ko11t8ve1rE3Jn04e9sX3Mj8pa4nQ5ps9Mv2ExAbn1utHXTBkF74Z3xc2edAKT4fRHD3",
    "58j4O80fA1XPDpl2gS3nY2dF0rJ23W0Jg0at6EoA7Y7j36hN3Hy0aq3qq1zH0dN0aOBzEEvh0jf2MNLt53CB2ec13U",
    "47W4Cf9sM7ER0BB1zn0Yj6FO4pwGPaCH92s8FjC4BP1xt0qj4lz1mT0YT3Bw2hB3EtAx85LS1qB2x09jq1wz7Tg0UK",
    "2iU2es0Il6GX0dU1wC1kg1Q83fP2VI4jB1MX4TO1eO5SH6sH2QK4TL2xT5ee6LcAEG0bD7vz08q7O215o2MY1or0rS",
    "2fGAwW2ytGi959n3ql5NT5mVAOX0fdCOi4mb0g65Es09n81Z0fu0ai30E2x22bY53D1MsBHq1hW0j159v6bUE4Y1t1",
    "01q45f7B88xy3OK8Z72VX2770Vn8cv4u09j60z60uj3tA2KnMCl0Oi6Wb6jf0hC5tx1OQ2oL2H51RT13P8nX0e82qx",
    "0fj2AJ2zU2PR3qy11034E2TT1IW0Fx0MY5f02bQ07k0fM0VQ3C14VR0kU4Fe4bm33dMMO3Y44xo1SF3VY2f22UT1uZ",
    "27e0ej5sd3ml8xFPgA0Ll8dS4tF06S6s86Wu0vB02a2z69AU4lo13r1968fo0r23zp1Jx3WS2xR0Uz6K97pa2s3BrU",
    "3Vc67T6sq3Og0mZ7yO7qZ1ui18M4tZ3I949M0Pw0vW6tI0Q55BL8bT2fu1JQ5XG1jH2oM4KG06L1OM9pM1Cs8sN3VF",
    "3St0B28O80LkIn21PW3cY2Ef2S927B2nE6rwLJxFVa1sO3CmCTt0w42et2Hp4Ut3566Do3iT7uu5XK1MS4h56xs0j7",
    "1Cn1ci1Lu2nX0JD5Ou6vT9uE1EMF2a5bQ5bu11d29S6Ga6ni5WE6xK5co21v0XA6TN9w5Q5v9FRGpz1J82JN00C0Ko",
    "9XQCgd1D91OV2jc1si2Rf5ku30S2Rq0DA75W6iL0wO7E41VX1j97dH415D2h0Rg1KK3vFRd50id5us0RB2rr56B308",
    "2RnHAJ4JP13Z08O1gB5f13Mr0cXCot4pc0KJ8qi2ZaDzF00P2HQ3IGNQQ2ku2v90qt2KO2x60342PD4RW72j0QR2O5",
    "0CY2EZD898qH4AsD1A0NT1oj1ih4kd1Ok83o1mt0G73sx44t0Zp3jf0az0Kt0XE96ZBol4kd6FG7Ka8BT6qY7hv6vV",
    "3lY0LW4D91LM0391go4Z681P0Y50l76EO2MN0WP0ww1HD4BS1LT0zu0v3EoD2zK1B83Ps4O41Ls08B7JvDnJ3ZE1mr",
    "1t90UV0qwJIH4ge0dQKgK1Fz5ReAtx1aB4fj0ya23D0Bf49c2Ec13v4GRAL89hp3f92QD3UmEiS3PN21y95S4up0h1",
    "5AF1LZ0Eh2zs3x8AA60p22er01d2qg9JU3Nx27n2sn9fB1qt3xh07o7us8fx2SHD3m05Q0H15t97aR35o3Y40B32pT",
    "2fz9fS1sa3Qz9Mh0Vb4F02hP11K0bpC0H3Lb4w76lh04d07t2oz28v0zq04h6AJ0I617g2OO0DB2ex0ME1h715d5rK",
    "76E0u82tx1Ce2ZWKqf0et5D81cy7J728i0420IC0BE7cl5rj13d0Nm3mb5At2V2Aum17Z0So0Aj1iX0033Gj9Qt72h",
    "82yAnY5y95fGB1U0gz4vi3uO1xE2AC6ys4A50pP2Qs0aO0na00o1jZ0Qj1E80RH5G59KO0XG2CM0UO3Db1I115Z3kB",
    "0nf0VS4AcGeS0gZ0sf8qP6jE0rC35A2095L54Rn1NV789Dku3vY04K0Sj7Au4laA0a1Nx1vj3KG6ZT7YB48i40a8WE",
    "0FC1m00cr1UD62f0Dz0tbIRO0iq8S12091fkS6t0I06fSAsV9ry1Or1AER1R2W21ZO0ci6ua1r45uQ1rB7ml32t426",
    "3AB5ie3NR0MK01l5QR20QEi54jI1ja3Xz0YTDQy0e41Wo0LJ0SG9o31AF9428ZT0k30B90DW6RA2j22Py3nQ0ZC29f",
    "9Wm4XxGY32Ea05R26G2uw7TO1L86qi2GH2dL5q43O56Wr2o20fL41q0dF5X60636Yp9IL18Q21E1oF0Xp2KK2Yz0EN",
    "3Xb4dH7QO9rO0bjAfeHoZ6gODED6IO2Ty5OZ5bd2Qd09a6nW1G155j7NJ2PR8sB45e0dK50B0ME3ch67807M2R63fo",
    "9RZ4Em96f16g0tj1f2Aqa4ad0kP6qY3S2IMt2kk3po0bk4gt1beGwW3rN1Ek94e4jC1Nq6gC5ZT1Jz21x0lg0xoAEL",
    "38z2s86nc84H08j1P03UzHNRKwbCF419X5JNGYl1qO0Bz0JZ08Q0cu6WV0mm27d0a81w28mk33sB6m4Pm03L8ci6nX",
    "6Mz3UL6TB0yZ1sJ3Sj2Rs2AX1It0fe1tv2bk10j2z955n7I91qBFsH2kD2ii0ua06P9HH3nM3uP04m8sf5yc0E7Cp1",
    "3355k62dP4Fk6Ho0OZ0YF12z0xi0tm0a22Ae5qL1wT6Yj1zo6hR4I01bN2EJ1oz98j0QdFFO8Ym0C87Qi0Dl4eW10x",
    "Cwf8vx1zy2H50IM0mLEjA6KC49d7Ae19I36G8If4RGDJ22AJ2y06UD0KL2wW50XCkx10I7ut38D2Ay26970b31f5B8",
    "0o510r6c11EW3y90F37it2FM0G72Ll1NY3PC6Gr0Wj2vr26M40Y2qL54E5fW24w3Dm6oK2y2Bqn0BNB2H4Ar0Y60YJ",
    "4sK8UJ8dw2ez4Ob8MV6dU4xo61M2nf2Tg27F1KC3Nk2Yd1Zt4Lp018Dxl8Ph4o93S63Vd8EIBndBMm2le1Bm1ZV71y",
    "5YW2HR2W55mg1980yRD1t6ND09832q0uj0Z458C1i98ZK1tk0yy48S1UN0rPBF25It1U0AhL7Ck0LAFJ802x9fS171",
    "4b31Wf2mJ07Z1MM6G616Z1FC3Lg3CDA5vJ3F39H7CU2JX1er3Tg1wT5A508BFkH04G35g3RJ2GD6BB2jbE5q0Mv1eK",
    "8YU5b72Kh3TZ6uW7Bp0VJ3SO4wt5zG5p81J4FYS1XY2qAJxA0DI3rB1VR3rr1VR1Rt0E63zF7gL2Qx7OO3F00CA245",
    "6TR5PQ0ek1wM03K0CWCs05u17QmChW3Fy3IN0OW4ZV3vyATH2703Hl3sK2IyIBv2i70Eo0Ip2JmBJP04c1pX2Yn13X",
    "31P0qi3nT2lyCrP4Qf2lj0GZ1vsCJO2ex25C0NQ5JJ4aw8MX1pM1yn1VY10848m63H1PP14H2nJ1B21rK0Xz2iq0HK",
    "4loJYb77O8Iu0VP2y3FQG0Sc9GmAR21r7Agy85q1sq8C80483Wi1Xs11c0tG3yR4WM3Aa5JV4RR1rN82E0fq0VY5PR",
    "0cP1dm1G7BtZ4vb07j43w63s03G1JC6EO3jZ1sT1JrAjIBcS2I60DM1t09bl35o43y1xh0ab7It6zxGtU0ka03F0Jj",
    "5GQ1FxD2tBu157Z1d8APCCWj5RP2BS0va53c5AD0D61W15ns5h69Fg8mL2Sw3PSDCm06k1c72LF3Qr7bd8Va1sl0DP",
    "59e16B45G3mW7W92aY9zk1VU3bq1Rp0YM6fx6Jb26W4Xj6Tc01m0ji1ka2VZBHP1BsJ0C50s0JL5B5L3nVoH5p257R",
    "0v14GN0JW2Wv4AS8dL1Ts1w62zN4X78y30LW24K3vq1w836c2Oh0BD2L220a1RS22f0Gy23fCPo27R11H075BHr9nY",
    "0OT2SU32X27G8wQ0200XC1712H386F3v3E6v3GA3ns3XL5PG2626PR1kV0ri1Lx1T50CC6W30RS7pv2Xx30B9V10zf",
    "0PJ1He2230d523f6mS1AdEqK5mu4jV1KiAyCOZb1Bp0KkD6B0Xc73L4Gr0RL1oP4H51bu1r81hrLBe0Aq0E617b0bt",
    "0HD0Oz1OX00C05H5rf26w05Q2idBc15Zx0Gb0mE4pX3p49oq2KI0D01vr1ts4Mf5aO25I73m13a0dt2Ne0CI47F0yp",
    "1Iw7gH6ezGfC87F56JBsl4z303y7IT98l5uR69R2Mv60G4bg4Ee1Np0qE0ap4p40K406t4Mj3xO6GJ71n5fY1785Bv",
    "6uI1uNBVe9yrBAI38Z5wo6TV0qe1vN3kS4167GL7CR5px5H67zh2KU2AJ0Ak0Zy2Uu2uG2DC1oaA2u3Di0tV0RO1iq",
    "2Jt3bl1uq3zJ0uE0dg6sA71d3j7KAn1zj6I50TE05d1mY2ue31p3qX1ArAdI7Mj4Hg2qV22G1VY1OR3TZ4Bs4SQ8mM",
    "26M1pm0VT4Ve2Bx1J05Ng2Wv3O9BJe8MI8kP1MC17B0lh30J7dE0pn6hB3G15n68zd8bh8DB1Vj5ho8rh2sP8Dq3XV",
    "2iQ3lI3gy3sd0GV2l9CN40kH0Ug5bJ1va4WpIEm4Uo0IX2ep2Ev0Ay1LkBwM3kC06I36m9kO1BE5lv1Nx8KN7f72Sv",
    "2KZ0nT1RO6Wm9M864a1wBAP75IZ6L65iu1Q769u9MS7X84tL5iF0SB6Wx8rs4UX6CS1iC2ov0mi6Gk1Sy2qN39w5B3",
    "3Ps0uD1DR0EIA2D4DS1MZ3pH4rC0qG1pDCWV0Cd0zQ5Di7XS7Ul09R2y7Blo0GU6vHEqD1uFA983UN7MB0ih1d61JD",
    "4pdCQ412V3jf7Fo05q0uF2Qf4aj48s0E03NJ7OD8nP3iz28C0236GP1Ij38r0zn6XQ3dQ7Ql0u30oX2e87iD2Yf0Ye",
    "0ma1f41H77hh2ed2wU0WX0Ns1qT7sA4Vk054DsZ1RE2UJ0BA29f24m2ho87t3mN6Z00bI0Qu6S53oa01uD4G3Mz0KH",
    "5SG3320b76QGE9c9Om0jv1UH3DJArf2d90L41P6H603kp6tw9Ie48S6Wr1NG8wC2ye6Jx4lu5RR5ZC2qM4bUGoo0fO",
    "ABv1fZ8H533K4Zw40G6Mm4FM02q26i2ek2GB6jBDZzDb40AD2186af6Jh19T2SM08r0nG0Dr0W513r0fm4zX2jRAfP",
    "2qp36pHN416dAlj1Nh0Dx5zo0W30pY7O10lC8y80Du0Zm22y90W5FZEpt45z2pn2SfDXR7uA33m0eR1SN6LH0az10h",
    "03W1XB2J03RF3T21Ns56Y1YL8l44aG6de0QY3ge1784Ax1Ug0gu3IrEWj3Ej68u9Ea11F1kJ65S13A1jo1FX11F2dz",
    "4U4400BFi4et588A5C62gATd0te77H0cw71O6mM2030dt2Gl3FZ5842LZ1It9JEC1G1mYDZ43cx0070c23iv3js6lw",
    "8ma40DGGL2Ex0QL0SQ8Bo1ZC5jn0rC00Z3MM3LS1uX9PFXze6TD2OkF4S2uX8Ab0Bb70Z6Y94TUG7I9WN5Nb49P1H4",
    "1hX5v1Ei07lI18S5KJ1KpERB53d1ij9jI8kxBSH1pe5e68Oi3qG0V62SC30V0Ad3HW0MZBvw09L5pe5x820B3Hj59w",
    "E1X2h60ew47a1QC0J5N7f5KC1Ni5hO0s35YP3FVCJy6yI1a02W80er9iA6aW4vR3FH3j53CRIUe0dB0mm0DK1nc3zM",
    "AkE1PH3HD4s316T2Y6OS02NG0xoGFSJub3g64j7GIW7jA1fG3pF2RN0On5bi1TK1BW0SJ6b2HHT0Qg2pF1Vr56e0as",
    "5sA0FP8Mm05oCjx20s0fF0T02MY0CG24V3RC4jM4lL3v53GE2sw29H2IX7BN8kM28000a13O4qf2QF4bY3rJ5171dH",
    "6EL9rh0w53o86Nz2qu1uH7bw4Tn6Cs18M0Kw5740He60i5ss0DX2Wq3fTCBC3Il7jy6Wz0wA3Id2m31IH3Dm1r00nH",
    "5Mg0Ly08s66o2od2vu24H1ln1cn5PY0xV1uW6ip14W0Sj7Nh6ok4yf0TFAeK5PS3dq5fv18m03Y16b1mB6Yd1dGHCd",
    "0Va4c519y35U5coEo42R6Aci2Em16t0Lm3Pe1wGBJE3YY7I3IYR0Kp72I5Jj3nL8jD2B20LI4sC3IH0oY6oy3Q15Rg",
    "6ci2Qu1wA0by2Ty0uC1l91ni4Rt3hP3AnGhP02P05K0Rs2vl1Q73TT37K1U21mu2ce3VADqN17M6Ca4SZH4P2V99aN",
    "0mX4AF9DJ1El5OL0ec6rYH2L41d1pG3gqCxw2CS67e3eE2QE1zu4r90aiCmh0nR8070P54su3di1sj1eF0H93mM2RB",
    "0CCD4W48227L0iZFah5a72cp1c0Bjj2dl0bGGg5NpE2AB47Y0Vn42F0MQ1QT2QW7ck2tn1600I50eU2Xx0TbGkG2gk",
    "31B0kz3Dc3H713U3jw2fI2ab24m85a61b1Bu0r7L8S5me0500955cY8X79uc0eZ15A0KjBAK6pE2812UR6b86jeB35",
    "3NL0xO1eq4Tf07NH9J0q77NT6qd81J6aM0MT2h587GJzP54O1cl1jW2A836U0yA70F1e61co3Og2fm07D0ic1Th1Oa",
    "4l40k94jr3fA63A2Vl05YC6m2L50Bj19QB0E1NO2xT3pEAQZ1Ey9zp0rO7oQ45V3d71ww0RW0Ev71S5axB4m1w32Gi",
    "1qz2G00vH0Jf2lQJKD3Ti8BV1gO1jC46D1LX2y13qt7ML3wW5S71ob4Qi02P1I80wl2AI7E63myGKV6oD50V5i00uD",
    "DZD1RQ1qH0sB9zI5Io7Au10C5tc9ef5tW1eQ0hB0WF3sx3HA0xX2h83z09iT7Of1IK0163m72lD3164vlDIZ2IT17s",
    "CvA1T478G4Sf34G2D59Ua0Bm01l4LDDAP0xG1Rj4tw06r2cK2Nn3r741o41d15j2ws0Lm9WVAGI1AREFb5by7Bp0xM",
    "6aMCLB01i1Wa3Ld6jb1TX4eG1ZJ79N9pb0Ns6bz55q17853p27L38i0Q03g27nJ3d76go3j97TQ2Nh9pyAJE10gLfm",
    "CIA8Xi3B413z7JICQtHRo6x3GKP5GHAjQ2yLCo38kx2S40Ku4K01R21k518X2V61SJ0Gn0U30w715xJC73qcCiX3nU",
    "4xh0rW5vl2DK0y54Mx626EtH4I85yC1p9F8O6Eq0YUFKjGy179O0ME9Sn0jx2jo3HVFHU0Mg3ri01t2tc6aw7MW86q",
    "3xlBXQ9ob0YW0ws1qMHgw0MM1Br4UM5iH3PC3IB09Y1R48F40fv8OY1fK10z1dK3R41H03A60mt20M21hF5f3Ev0qa",
    "2CtC7v0NN5rs5Lu5os5rs0YU2Li0Jo0RE0Fe0ZI2gO6cS6Zn9318fW6dU8uNH7i1Oz1iV4iX6nz87K1Cw1ej0ye2s8",
    "0da01N2CS3qP50Q4nh3Og5Gl0pQ2ZG6gtAyY3i0JDr4cc7Ro2cs0iA1yu8Gf1Vf0Rg0g34QU2qz3Xw2YQ0AYHqK2ee",
    "6NB2Jv3bj6ch0kP1MH0Z608U4fs1938IL48M4lp30i52N4lgCUfAsT44I3Fc29j8Fp8C11gj0FO9rh2A30r28HT1RD",
    "GZT65I2QM1T242oHdV5Vc1V22yM2rh2780kP3q20YQ5en0561c45xL1uj02Q1Uo0ut0CC3kg0Vk6Ty4n1CBG0bZ22d",
    "0vY0enBui0Dg2nKHHH0d00uA1nA07k0WPBf35bJ0KW6jU9j88ms3Jj3AW04V1pb2jO8Mv7DxEJV5vx1mp0XC0sg3n9",
    "4PW0HE6Qw2p20xo0zG12T2InLUi4IY2zE0i61ZH0lg6lp8IS5Fo4pY7nj2Y13w36vq0x7EGa0Pj43j01iQqe0r43ct",
    "0tp0zb31O0G30HeEEL1LF0Tv2V405J8YH4Pm0qv6an0ZR2aFDgS09N3QI29l0VH6866b61GOBxa3On0vX4ej0Rs3rZ",
    "0DG3OJ80s1wh59r7bC0whBkF2ZL1fQ4cK00o1rk2Xo0PN8mU3g00S4104AzW0fd0EDApY56I6nb3154Gt5AE3mr26v",
    "0rJ2NC6KO6K7Cgh1yi3EE24L23A4Rg3fdH2E0kT4zD3ia5XGB2w8DW0ls1WV0Fx0Y13xBAf70pK07o6SM3Oy1dz1lg",
    "0Xk04d07t0Cl6bv2c21iX13V1PmBji2sp1fP7fZ0xh6deEgr2uE04J2FD08z5cc16k4nq3jz3WrB3e0YA0HY6vw1Qz",
    "7J66b60oq09625r38W8yH62N0b30FW0u71Vt0PFF1L1DS2nS3Uw3Hu7n90N73833iy067B8eEfE6wI2fE21a1HL3DC",
    "0Hs07B3uL5Dh0ek5B12rx0NqPKr0LK3f32ZC2yP1c00VC1aT3aR4iR1gu2qN2OH50h1Dk5eG07NEIG1Sy0zW7Ol0HB",
    "CG114KH4p6178m37d13YM0jb4zm6QnBcu1Gf5ra3rgASi9mj3d18U00VK2tP0Ib0752MN4Nd0by2w26Wb5Xy0HQ0uH",
    "0hC1vF7tc0Hr1GX0r9F6B1uk0m04d34NB0EA12V0nu1K53ci1i16ee1bm0nV3G10R14X64m72E111y0r95oX2DA1NA",
    "24E2Uf6Kh04h5jt5WtBep2801Om2Ri5jl45X12F6MJ0x00bh5OX9R50jE4wk1JL4Cb0jg5nPD0d02J2HU1Bd01YFFj",
    "7fB0GT2ga44h1qS0k7LQ832K5bt0Ji0iM5QJ3MX2MI81h0Gf1Kj6sq15u2Im8kx6th4WX2V46k34FA9W31AT06G8PF",
    "3Rj0nz1JQ4Sq7ic0Do3UaDTa6R10fl3Pk6UZ6nN7PF9tO0gH4LnAbX0co6U41jmEqx1cO1ra1sX4HN5wK3PM00m0Je",
    "07C13739y5N4CtK0cF0EG0088Gc8AY1Fa6or1R7365Cjr45c2iG0gx2RRAdN0652j71fS0YQ44X1QjEDW5KC6X0Gef",
    "1rG10k4s4Ia35u45gt1BL2Ul1404Q085f5yX76z8xm4Is20h3B61SQ0dQ3mG2JZ0sE90029F3H40b305R0xY6vz5uH",
    "0dz5rv7M74QD83g5Qp3wm06p7GC3bl8vT6Tq2692gwFyg5al0lB3eq3Uy6PU0Mm0DZ1ba06R28G4tu2370x14eb2VX",
    "0PR5mX6oZ0o126C0qd0pB22x0fl0Q92yzAHP8iA4Yl1pu2dq3fj9NQ1zC29u5gE0jD0oz3uh5zBFbl5g33BH30A4xV",
    "7522mN7ec1940in5m32g12ay1ll1BM02V8ZN1uu1K80PO6o81QM2hd1kh1qB1PU1WM0qS6qU6bz4210lw4BP9yg5ji",
    "3nZ2d90tT6CK2YCKxH05F1HH133M8y6ra1493SL0bV1UR1iS1fx03k5pI1Gc2Ph0T59HZ47l26P8yV3JiCfg67T3GK",
    "183DQWA1b5EI6qV3Fy0Rz3njGe53X50L73Wx6x58QC3MA61l8uH2BZCTbA331Gz4nd3Ey4bo97J7ed56K07K4dE0Fx",
    "4lh4uB3Ce13K3YK3IF0Kh1pp3MN4l519w0Ao65y7712CX4iF01v09J5ha45V1EVAtt4SR5Dx3Rh4OY1F72q10KY32j",
    "4zR5je6YN3sO29v6bK0uDJaH2oQ0MS4ua12I1vSGH245P5J567X27b0602OO2s81wE4LT9IK0g23eY3Wk0nW3Mx7TS",
    "6FR3RB0QR5kuH9nAWZ5Bl25j9uy7lV6la1mg07Y0Z12fo4Ob2vj2BsALZ0xx0SZ47o5si5a75Tk9lu1aU32L0rW1gR",
    "AoV74O2Xx1km5z70D12TD6nk2gk5Zn0DI2Qs1v480p1j01OA1lV4Qc10yHig6b37H83ll0Kx0A70Kt4h13Tk5EK5oK",
    "BzO77x95p1kr2sEH3G2l65OCEKd4MW2A64En3wT0Cx5OT2kD0ix2PN8ZT9Nt1BL6De7oxEbKL4c2g46CM9KE47G5QW",
    "1K345x0QJ12U0nn12C1Gb1OE1UG14N2V2SjT1re36F5Rm6P78o44EC4DV3Qk3XZ0ME9p35I43mb2lz3Mx0d753y1tl",
    "9XcANd1D812u1Ga1qrMj30LX0Ht0xx3UO5oO0Ks1Nn0JL7da39a7u20Mz1mG5t63LR2cx2FH7Xk2Tk2OY2gu2CS8tn",
    "0PB2262x40jt2Tr0DV15z1Bq6KD93o6zNFBa8AB0vs54I5Kh1hS1BC1p57oIC6J1eP2Mt0BE4Zq9ld3dT5DI6lq1LR",
    "4ep91o11l8fV0gJ4Js29s9Gt5Ml7z28bH3BR2Y35zbOs15JV5M91k91176OY4Q06uH4oPCTK0Pb7rN23F1nx4uADO2",
    "2Wf3Mq0xo37SAFs2oY03a3c44uOBO91Wa6411mT0YTA463Oy86F0Qt1aS2FH2YaJlJ3ce0oc25j9i714H0gP18y2jB",
    "1DO7UR4ln01Y0mc1eO0FH1yU2OW12n0wY2Jc0J63cq1So1P50XO3vj1UX0PY0x30d62iG43e5A71UMJNp4Dn4mI18G",
    "08R3We05p0mN2Cm0KjAN51g83pD2lB6xL02Z1ZF81qPXxJDw2wB74J4GTHE98Qj6h98UQ4xGD9737q1fC1JT8HJ3fS",
    "96t2tU0Vn2hy1eMBOa3lI42z4WZ1FnDHN4vC0Lg3791mn7i90392uI5MU7l90zH0TE01j0TD0VQ6Y319ABD246TDd8",
    "0HD3Zt4oJ1A62vS5nK37r5CA0Hp7HtGpn1YZ17xRm73XN0CT8km072DAJ8uZHTADMp02D1xTFuwBei16V66u5XrGez",
    "7Eq4ce0ga0tJ83C3XN6cq07J2a73yL3RS5QK1Fi2UoRHm1XO6P62iB3ekFMS5Ic3YS0NECwH7cH1TT2wc1BC05zB0J",
    "4c51gF2EH6mC2Hl1ua27N1QFIda3bk25h0ej94M5Wi8Jp0VG0tr1nd47p32p1En58I4rw2eu1Mo1HZ6G1GTj4U77gz",
    "43j0PQ18u1er2mZ2da5MC76hAZr8bD6wR5jZ11dA6j4IM1VVHhT1Th0nR0Mw3lg0H013V0Hb41X4OXBePB1L1nL11z",
    "0lH2no4mW0280LM0fK4Tt7li8a55GH6vW2wf29R2sy6d75IQ5Oh31x36g2Kh8IG2FV54S3Cq1HY0611ObDpX2Ey1pN",
    "2f21865nI0761974Ul1aE0PV1y1DAu39E2Yo71W2pv5CP15m0ul3zJ6zP57L8v73Q61zv0Jk2YO0zz2YB6I7A4K0x4",
    "1ou4we38968j4Tn1F3JUa15c7O40VC9D61jm5g33BH30A19c3Yb03bJ6z0Rc0Hl2PV2KfJ4z1BK2NV0kp9C987n38A",
    "1EO4p93yO3CD3Ei1h10NM40D5b76buCBq4tq0PuEL09iL5Km1M11Kr7783Tm0W62YY7dC3gt2ca0R72K232t1BV0Y3",
    "2lK0yF78J4NEGXz3gH2t32dc2Hp5psCTH5hl1t9BYeAjb3pa2rW1X32472NH0883HyCjTE8m6E30ke81I1fQ0v1EgG",
    "0Cl7bF4KH0AzNMT7USBht0cN3ek00J4pb3187u44qCRYX0KU03c0Cm4bp3Qf2gb1Nh0W00GW15aD6i9SzAtK4CuJ0C",
    "44u0vy0JL11r4Hi7c6B8ZAuC7i24823kL7UK84k0VC3HY5uZ4p79Av05B2qO80tF2O1Rq4ys1M13jJ4Qz03f4AbAsr",
    "3mb38I1VJ5XTAQM2E9362Fmh38PEKP0WB2q03Hm8vj1aY37c01OCRf52b4WaAT21Rs165A9n5N31h11qI0qS5K10HA",
    "5zM7vz0yU3Sx12K4Vv3920sU41j80C0Rf7fl1j95mT0An0EG4Ub1Hz5T74n84jS8uS6qc4PrKJu4Xi2KX42V7Sj0gZ",
    "1v64mN5rG7Ls0MGDl5IJo3PBBRW7Z47VM3uL0rx2S52a01qnCep3ED3VQ5U91XP6oY2XQ1Ik2v203xG0F23o0cI7xm",
    "EA83y00hC08u31a1uN0jd0lR4wq1ia2DP2Yr1Ou63x4eE2Y25HZ0YT4E13f13y818M0Xi0PS8670BGDpE0OS48h14K",
    "4bE6L68Sh02u9b6OBM2K13gL1Kr9HQ6No2GH2tI8yC0Lw0gO3WH6zf4UH0yO987B905yY6dd24S1Nv2dO0hX1Lt0r6",
    "2HG57k18c0vh2DA0MW4q80oe0aO3No6sa0sqCzj2qV2j43OH0pgA752EO0WF0Y40TT3hM1Iq1wX40t2zp2zl0VCBLD",
    "2wG5Qq5DB98G4Dg4O73yv2jG2Rt4ga6mw3FP1Zo0J51kM48R0to5FS0Cp16Z7OY7jD0LP14RJQI2Zh5hH1XW5Hm2Gd",
    "1mI4Tx0Sx1xN0CEBTt1REB6l26A0tF1C52hh4jC0MJ3FN0Dl4Eb3y95iw0xo56p0f28oA1fR13f1M3CzL2mE1jK1wl",
    "8Jm1Pe5hG4nU4Rp62ZDhx4Bq26d3VY0g2BR023u1i740n2m45A71Hk4Mt3Lf4IM5A098X7Ao83L4fD14h9Gb5Rg3OP",
    "3Sj3kf0w83U13wWKPAFQa07p4Yp3X01JN2zW3XyBRe2A155m0SR2GBFfnGvr2vT5JK1rm2rj0wx51X0JM0901e51xq",
    "0W555z9j81Mw1XNMFA1UG2PD1Uv3nG62j1Hq19f3iz8Qe6gG7C50KM0510gzGTD1pw0Sn43I2sv5oP3AP2wi122AdB",
    "1cE0W73v97Ss80T2UJ08f1Tk8cM3cN0121N8CDt7Xr1sUAr63BkIHF00y5VT2KQ1z31wW2f86Xp0ag53Y1ni1LL1ms",
    "1qK6Ri6591TP5fJHsK11t2tp0GMHGw0u60m72Yy1LG7jV0wn0NL0Mu3dx0tI34G47v3Sn01hEX10pI0GWDzlBrU1Eg",
    "8J82VO2p852H0xS1hb1a5CQo1CL6XV4Wn5nQ3Di3zGEp0153Bt31iG6Vq1vL1XV0Sa4KOJJN67uH1v0Dx0t93Hy1FE",
    "6Zx1DR5aj0k900R4mP0Xn1uG9WQ5sY0ci9O90Bt18k0XW0u444P0XT0jh0AG2pnCsO4P91RA0k048K0JF33m14H4zA",
    "1nb24d4K72i63tr2wc5693zq2rO1tq3RY0Qs0GU2rp1Ws2gJ5Ua3APFG90ET02s1PW43f1iN3f541E8po0ZD1t236o",
    "52TAZn1Tn8LD0b79UU01S2nf1HM50CBZf1LiH608VG0SaE2m1hi7He3Bn5Pa0sD3of1ix85q0Nw0Dc2AxFCx3fL3d7",
    "05Z1US1kLCDD40D2qtER12692Yn3li0qL3ag1UyCoG5HDOnl6r43hw5Vx2zs0cS3s7CviBe70lV1Hu1sW41T3kq0gN",
    "2Dj5LSMT91Kn14RBdI4cf1IM00s2vR4zO0cx6rH7R417a4R71rCDaw5pK0sXDzq33B5Mq2396OG9T81qk4Ya2mn2mI",
    "41E0ON4rj3HyB4S3f33aX7bI5gM6oF8gK2fR1Xk7c656Q1Rz7Ym1ph1UqUuw1GT20w6J53Co3GK56G3KN4Q42P318n",
    "1Sw6tg0RM1x23CR07c4h94qh4pQ4Ps0zr0xY4ryBOj2Hg5RU16M0JWAZdAfD0A15KU1l31yX6kE4sm296JbrDRd2YF",
    "51I0jK3ofCg85BN6dC7BoB046tA2UC1k62YzK4y5nK6La2sq0cs2go3AJ17a4ZU17I0A2F8C6Wr3mm0Bd0Qu3Yl4WX",
    "0CF01k3t81G33ot2Sj8d20m02eC15l0Mg2EW2oE2V73E8GnW2ry7kC0UZ1GQ28i7xn38yBXt5Dk1CH71i2iT12S7vb",
    "GJM1ke1Cx4rj1BP06sAAeBAy4JZ2FY9uj0UE59n4GD0iB1HI3Fw1Gn10Z16i7gG0j59yRB0b2K11FW3lg7VI1iw2ri",
    "3ZI25NCKx0Hd0KB2hK3Ef8ta8O02tD5DF30P8dH3Jy1O34dt37H0PKHj02qn3Ff44J5zh7iv0hO6Y10gh16o90d9OG",
    "3Di6eX5OQ6056mD2uA00M2En1ni89I3An54f1QC9Wu0i30Gb2CU2rT3e99Yc0X36dK2kt6X30qi48y1SV0eQ2aD2yp",
    "Nis7tn0IM3B71Ll0kf2il3Oi4Yx4La2lt3aKIiq0xS3WY2UU1DP06431x0cD2UeKVa5Rr5V70Dr0zd3FR3c67Pk5sM",
    "26L4hX04O0Lz6R70oi4HN21p3HbExq94D6H80V30Bj3wfBIBAJyIFZ0wj6Hd2OX4rOCcP1QTEzc14C1Tl56X2Rs19A",
    "0kv7lN2gk1gf8aEH3t39m7VB6gI6XS2438Lz1vq2952Wh36k2ya3d81JW1dd0U50iO1q54nj11d4SQ2Yh6Df1Oj62Z",
    "0tO0Dq0Oj5HB2AI07y2JR2M64Si3Ah0zQ6u41qx1uS04q1V80QO1oQ87t5zU3Uq1044H21Xm4qUAWd8fE4KB38P34Q",
    "1Gj0MC2lR0qYB6n4u4B4T00m4hE0fT2mt5Xp6uH8Wy4aN3D20Lb0J64VA7mE4CT3Sn0xq1zHDilAlb0Ej2Sk3kC2EI",
    "3lW1T81YwAsj07a3xvDHw5ax1RO3lz0CI1QO1p31wf2ahACQ0474sy11X1Qg1Ux1tP1Xe5OX68X1mb0X83g42hfD0h",
    "CQi6lp0SBBiy0Sd4XW1KS1pnAR15tUF1P0Bz2JK0uD2G30j616I4vz0J63WI2u36qs17g2LK0AH5CJ1qj3Km5rh5yp",
    "9fR06w48f0Fi1yH0tZKHZ7dc25V2iL2nK6PE5mwGiu4GT7Jt0iq2kAGDJ9hw4Y81vtAnj0mG1qbDs1EHH5jX0EE1jH",
    "0SY02F7Up2Wz1oB0G4DuS1cF3sU2qn05A0Cb0BR1wp1DI3RFE1V2Rr4p86mg0nC3DW2752Vh0YB4eZ3f82UG66s3d7",
    "Eps5Bp2XV2D31Jc3Bv14j0TB9Hd1k02Hs0VU6BU43y6HDA7F0Tb2pC2KoElC2ZV1BK1775mp0qp7MN0sD66O0UREbB",
    "5Fx7FO5mS07q1TfAxjDBx5yC4bi3ztEpm0r071l0Rx31G0Tq7yK3pN4sm37Q5ju5X835W07v9Uv0AD2Pl1sh0Qr446",
    "Ba031c0ai2PD4Fw3JX0D761J0XV3bV0o12VMDlt1Qv2E10Ch7zN22Y13t2LI5OO2MO4962xg4tXAMa1Xs7N50Ob6Ee",
    "2Y11pw6j572M0O82510W49575941udA4c1PG3o76R51WN0md6uH1Ns1oZ36f3EG3kI1RK8Tr4ou4IS18J24z4mO1Ua",
    "13s2Au2IG5hO0YjCFV0EI7AJ2oh1Y24uf2OJ9KK2rT0kp1092gX4s60nF36O2lv31e0to0Kx4rZ15d21K6k11VGH1P",
    "IO44qx3AM6jk44h0K37hD8Br3WnDhL04U2bh1Ad4Y11E352V3P09933bt40D1e200U1Dc8FN7Yd0hv1oY1a80sl02X",
    "2AW4bP6dr1ek8r00MZ6FD0nB24C84d2wR1Wz8CO3ZV6dUGIa6oa3RV0vE5dc7WL0gH50zAsZ5W00u40eQ9be1Gd5Vg",
    "1eI3EX5XO1cf85Q4kn4Pe2Gk2736306sa1FPBYc6gn3w70EFHj29lr7Dh8el3MA2j82QM1T2BjN9kb38C3d13tD4jA",
    "0nv0tr74v0XM8c70Y91hZ2Ph5Dx4U51nZ2C62GTBwF18V36U4Ki1eBGHQ0dq06j3XD0ix1F33me3MK0ZF0P60Hc0vz",
    "32Y0e22Ls4rk3fA85T43e2SG3DEFIW4c5Asi4iA0Qi5nfABE3pr0JI5JB1NN0ZY1WU6J82iW0Rm2NG09u0nu5YO0S7",
    "9zZ6ei40n0aT83R0qa0Kp6bD60iAZJ0hs01g4EM0QfA9h1IS60V5tXCKk0363HR09d3ckC7l7Sj71c3Wk11w26r9Ez",
    "2fG22P8K72oXBrU0RNIUp3ZL2eO3dr3L36WC3ff1zh1dH1Lp4sW69m3hv32x1w53mm7zk3843bhEc41AX5ZZ01Q422",
    "43n5vL4Ov1vK0oO3Ez3tG1OWK950A21QM0Tf8SF14g6vZ1nF4H01Q62NC2uA4eQ0lI4Kd1wB0tk4Rn1gb04o3yS1dq",
    "43j0Y45rS1KA72t0wm8XM18b20h2hs5lW0370GR1uj2gj4GdHcV0Xq2YVARt1oG4SbTJq9Kt0UO6mI1R11rs6dC0iT",
    "1Og04e2zGAIk5qR0mA10A1D67jE1jh4on2gb20V1bP1Ly1QJ4Qv2zJ7Lu1z23ta7hqAR77bi2LIBKG1EP3FP1Wp28V",
    "0Cm0ER0aB0FY7Wo0RZ49n1mu2ce21r5IO44h0mp6H82VA0PAAMj1Zx2Yt4Zp5vH2Ci0QF4XY5tC5Ha2lO5ID5HG407",
    "1up43I05i6FF0Ff3WE0Z6Dhl6d72eF0Kt20263T53m5OP2t54Yg0dh1yN1ko80C1PwBE75it9na5Mz5385p74dQK81",
    "4VnFaB8it2NL1Fp6aa5jqATQ0Rj1hA7tD0vl1WQ3Zi1QT0Cc1Vu0i6CZ01T114w9Bw81v1e912b3mA2eh3q22Rp50t",
    "5rI2P81Im0QC2lZTD4CTT6LnAQ38XZ31D2Vh1Nc7Zd0Gh1pC15y1We2qwEFU6Rn5x66494pa0jM1J498C5i97IAA3W",
    "3Nh6sj1Fw1Jg5ph9mP2Bm21a0Ne2gr28m6eD2A80ys7xQ21N3O83Og8kx06344h5KQ3R091z0u34VjEoX4mO1NO1JQ",
    "2yQ2ch8mL1WO4lx1vWDD845V5n35si1cB3bd0b21OI2Py8hK0ov3LK1SD1K00xP1Ef03z29L0vk8cj3lp4Ti5C60jZ",
    "2ud5PQ1Ep6WF2Vj1GWCux1Y63jF1WL4fX4UF9uB5193e02u71LS24a8FV2kk0eS0GE3TZ4Rt0702bG0Q02cG30M2iy",
    "0Ac4Ml0I50Go5kh3Vh0eO5Up47Q0WX4Bs2hs0HA5tdDHw68G7940ya7Pa9PJ1rH09e4ap5GP2v42n60H88Hf8Li43o",
    "0ue1lfCgy75T7GK2JZ0UQ4eT4jL3Jm5Qz7XJ0fI2Qa0WfALd3WO8075nk1AH2ac0L944QSNP6uHBlLI6H1Dd35V9qT",
    "HQ46VR2TM0Om0fl4vO7vb0Ox0Xk9hs3Ru1ZV0GP2601AH3JPB6V24h1730BJMhABY202c0ka11O19B8dh2ve1Sp2Gd",
    "5St47p37n0T97ZJ6GH0oW0D451v7Yp02e2iJ0eu01U3s6L4d0dF3bL3Ac5ok9yg0QB0tw09g0vZ6HEBcU1v52uo13H",
    "2cx3729oP3QdDknNGu23Q0rW6EO2sm2E95rP2JV2F50vS07m8WGA0R8jh9Mw6SR7crAl30m32E78LB69D3Q232G1wq",
    "1Dt0EV7Ix4NA3x54mp7gI2QK3kz28R6TQ1nT4Wi0UG1ISCQG0Kx81V18g1df9Gs50o87T5f00C56ts0Yc5p00RB1M7",
    "0f42o821g07r3AF0v9AiA0Tn2Ep5v13xK1Hn11f1W75BM1cJ9U626j3xh07o1Xu2no4iu1d21rM89p0eX4beCS91vV",
    "9Gh3Lt0pA2ta9Km0zl9WX5RI5ym3nx0o92CG3mj21dBOI4kS21F3mK5Sa1Dc0UV0WW0gz0ur0jf0Yd1pl2s86ho0Sp",
    "3ex3Eu0IP2920Ob30529k3383Yn5HcJNv4XJ7ww9g88JA25j0ed4AUHpV0oq3OAC7G6d926x2Q43W76s04kn17IDgc",
    "0KSB521pQ6780Va5bv1yY0no2qZ4Bh7Ot12g2jZCpl140BV97z70Ta3rg1zgFWXBn13jD4mR3hn1Bk1Ye3BMBkm1dj",
    "1sk5FD1yV2jZ2L50Jz9QU4ei1XQ3dE49C4W10gY2wj6IA6sa5kO7hy9VO4Ny2Ww40w1Fn5Ci2RI2Vh1BL9KB2rH6pO",
    "0Sp1Br0LU1rD17P9gF0u20FT3G271F2Tf0pH3HK0ht25i5Y2EYL0iMF1b3ZPQ63aMjBk04Sf2jO23e1lT5Q30to0GR",
    "8c10S1MO9LG03mQ2Rl32L6MJ6MU0Je0I75VI0lQ1G81IT8da4AZ7gv45H04r0uoGDU23P1SM2IV40w0JI3DK18I6ei",
    "4jU25r5hJRol26T0Pu7Wu5K03Bg4bd0RL3oM00Z0vu6e54rL7Nk9ld5Su0u8Ab06nbGaI34i15w0pXCeV0oA2FWBbj",
    "3Jy1034lc2hm2LK20hBZg0V7E7d61c2JE2v21T6Ijw1jH8Yk6aj2tM1823z60kG10B2Zk0uH2qx2cP3yU1YO21DAST",
    "0xo7oS0AF7v60Lf2Rv50d0vW81Y3Uz08z00W4vI3Ut1ex0NiBYM4Lf4EI1uf3VX29C6cA3R06n385E4Nv2oY0Xw3KZ",
    "1kg4mT2KB6KK1UJ3Ee6oQ45g6TL4T72r8CZ71eu5hB1AV0or3tK3IG0Tt5pN5Ji1bS4zz2z918s0023p25KJ25h4eL",
    "2Il9UY6jj1T70AW8wq9fB1Lp6sa1efJPL3BX22n2SU8Wd0IU5UuBXG5GR32I0vG2zqDSjBEG0wP0txNM70Fu4PlISN",
    "CYs02L8c91fv0gB0LR4aR07e1QG2ie7xcFXh1zs4Dh3C01Hs8WI2gk2CT54r3xL5lD0jj3wn16P74X0dE2vf1R2BLo",
    "0CT1U92Qw1QL9Se34R6Ur0v25HZ5FP8yJBNd0Qa2Qf6Wa07S0C22lV1iL0gg4OQ2NJ2Hx4u42NB1Kb0ZZ51a0qB118",
    "6CS1jm8Jt2E717V1JV6Z12x5FCJ3rK0mN2LM05c5v30J28WB6aG1Lw60k68f5ip4C05R580Q2H64O741a5sh2NY3Jj",
    "6h8JVDAvB35U5YW0Cq3D33Rz0IG7lZ1Zy5tY2Mq4Mw27I1J50b26fx0Jh5hGHId0D00Rj3Gb2vD2SD48FAcLABW1GC",
    "3Nj1S637o3vF2mm7td3nK0kR5kR2nLAFg8te1wK3Jg1gGFmK4m74id5mp1wV1ro01B6Ci0An3Av0ZK2IH3iG15A2a1",
    "2K64pg4nL05BDN81zW6pn7pl3PC2Bl10k8Ks0hP2LA2Ac02h20g7qh6AXEry19W5Mk2144PqBRQ2OmDC40iX06d4Pg",
    "0i885h3NyAuD08n31G2Eu0Nv3DW4wF1Zf1uk5RN5zF0Pg4U61as2cK17Y6v662m2MO0eQ1za2AR2yC32p1iC4zq0N2",
    "0tB03k2Ef1pZ4mgAZm4hf04I0WG3zi2lY0pt1TlIsL2ee57L8tH5Rr0nu01H0Nl1fC2Tu04T6665Lz5u97icKcK4FL",
    "1Gb6mP2ZG1Ay8eP3yb5895g33BH30ABpl1297Ny3sI6gVAFL5tOEzi0IU5qX0Hg4ZE2es0sqAgm3JJ0e40E29ygDI0",
    "0Ty78h05XA7Q2IQ9Qt7NX0Px4fH2Il9h25ie6jc42x0Nw03k0o01FC2Lc1iu1Qz8aT2ILA4T0526iRF4J1Nv84Q183",
    "1lBBfL5pd4By2Nw21b3ar2oG6hD9Rb3HyCjT2De6RD8Vl4JxL383TX1K9Cjf4it6BT8vL2AS67y6cz4qE2Tr0FZAJN",
    "2sP1BX4IB42P12G41g3kK1nnBFS3p504s4cm6pv2jG2Dk26k54e1VJ08g1eZCqQ0ol56L5sk22r1UG2PD1oz8zX0On",
    "9ng0uD5B518Z1An4ihBGT0LC2z90Nv7Yd9ra1DY2Wm1KL7fh0gj3a52uF2Jb33Z0xE3PI5wE2cu6yx8MB4uIN0M0DQ",
    "0lM0yq08r5bx52e3jG14V0RJ2aMDjq0PU0rw0wp8bb2k40b1KLg52n33D2Cm6DO3lr5T922P1Xg2Oc0JI6EG0SI1xs",
    "0gW1EH66d18O2dx7xl6ir0U52Xx0HcFJv1cK2gkHpq6871H43Ur3bT0I517d1jF05e09R21r0AA6LO2Q81onOLi5EK",
    "EV3AGH2NbFHq5GK3nP0Aq01d0YG0By3Ge2XS0De4m40c81IsD1m5Zx3eu2jz5Pp27E3aj0WS03d2wx24uCau06p3uE",
    "EcJAFT95h0Tq3Qp3HM8Dk0Tf5C30707Ee56q29798N0PG47671Y3ES0Kx8mp1jW5u61Gy2Mf4ah0oU0lw2eE7RE22j",
    "0lm5k65SC6Un1kI5fY5WG0MEEUW0cb04o1iI0yE11H12i1xp5YX2Bh15G06o41U4Ih1jJ2BTB6U1L91jd12n2kA2vf",
    "0sh3Hd17I4EH5Zw8M9IoB5NT1Pt1OyBrU4Yb3d32ug0iR3eQ3YH2Id1koCWy1gB3pT3wP0vd5rl4qD07z49a0Ur4pZ",
    "7KHGW61D32qk6pF0Ih2cw0DZ50587o3wD8mMBx00VC0Jr2F47KQ36m1HM6gi6Dw0lz1SV0tC2nA2AE0D97BDCOm0Cd",
    "0364Ik9ME4fM7rE0HG2WQ9C74vo1LL61c2g82EW0RU1UC3Ym057GUk46p0py3iH27m0EG2pi3nX1NR1Y33YcAko3Ql",
    "27i5Ai9JB0XI99n0sw04s07k4z50f29Rd11y1fjBCl2NE2CG2Sd1Qg7wO04b0Ts1keR3q7dF7Z45m62oB72j0mt0x2",
    "09m1pz0Oe2NT1Q73fQ6OQ26r3mV0mc05l1Yd1bU7Jk7LDI091Lp6OZ2oqCUU6Lz0Vc2R23ku1p00E19Qv6Ki2jq1Oz",
    "9nM0G15mRNJS5Ad3od9mn0Vh2hm5eo8Zl3N88QCBXeFqY0f00Ym2271x7CCM6fq8ph1Uh27H0RBD7N0Vn09a3ZP1bp",
    "1FY4dj16eEWO5it93t3Nk22D7Fj0iF1LD14K34W1JQ4ZL11m1Ps9DA1252bM5yZ2I880T2UJBzO3Fu1vK0tf5Jw0FF",
    "1Zv1kF9vuD6yFaY3cZ5emFKb0V03oj6Pc1Oy0K51Kf5588i06L95Wr3CM6g90ge09j0pC2sW53fDP20vB6100TrBWE",
    "1dh3FHAuk3Nl3Is0da2uP1Cm6vU3UH2MFBrU2Zp2HJ6Ws2kV0Db5RC07J0UI6ij9Sv3F11Ly3as1Te2b86Fe0wo976",
    "2C67No5Wk5c45TU0GZ1Nv8KC3vg0aM4cX1qS5e2BBj6v659715h0ZG5iE0Dx4W4EIOHVS6VG5290K53Ay3nR5LY4Ve",
    "3B73Zs3USCYK0a31uN0G334e4WL2gJ15n0J621E3RF3T27aL03M2Di0Gg5Cb5c323l51F3Wl1pRCcUAsT3aO0TQ41b",
    "7NP11d21c2dF9SmD672OV65Y0BO9BC5ke1Ft0gD2Hs15z5ZOCog9Bl0A214b6Oh5JU7mD1LI3TR5VvGzu0cA13C2yH",
    "1TV0RT00D1zz0oD0my0r66J5HPF0kI7pK63C1ac0wF6QxC0r4vP6931t192b6hy61r0Vw1FtF3X0iB3s24MP8R95tz",
    "1Rm1QM0zz8eQAGC5N20OZ1x13A66Uj7GZ5XV2w48TbJ811PT2m238z0Ao2lV3t02K80Dt20841T0Jp7n96kz1dZ3AS",
    "2gc0NU49d7lnA5H8jABXCA686nD0Vq3ji1NN2mw1Yp5i30F70zD4Hs0Zn48P5cZ4dz4Pz8co7v79am0oQ67m4F7Bhy",
    "7Gd3712U5EfD0JU3ji7UC1PK5s02EZ54x6BD9pp1U87pk1Q40T51JI2CA5lL26w8GR1Zj46T4Dz3sh1esB5O17gDbP",
    "2z24jn3bc1UE0fH2EsHTC1vwH092jF28t8E56hh0MA1nS6U50Uk1m466k6og4pbHvO0iJ09U3627pG2DyK0q2tQ62Q",
    "5Oy19T3Yp3wL4Tu5Pm38f7aX2hB1HK0V93nA3D00Xm2No4c40Dz5wI11G0pA2bp2amK4fMEj1IB2Dd32P1HD0f5BCP",
    "6Gm32g7hC2tx1ub0oU6sd1KkDLC2vp2ZB1n02Bv7o40MEDv71C03mb2WY2eL0jc32l1Do0hE0by3YY5Yc1Su0lF9hx",
    "B0L11N1pA0qC1jf1qQIiH3J6B239pE06sDuh3BIAO32sO3wb5dy0fa4Qc0lu0Of01W2axFkJ0WR0Nu5rp54Z0Z24yw",
    "0Iv17t1oe0dP30f2Hw4360zg2Vu2YU1524oE0Oc0BQ1JC4Pf2eq5Pf3JR5W5RS59143WU2nQ1F54qa3Ii3An2KP0FF",
    "0x29tJ3Jp30e0lW4Tq95v1iR0fl2SG0KZDJOEVt8KL81S4bg3gY7Ee21q1i01oM1hJ3T93DK4343Ax0OOAUc4er0cY",
    "0jvJop0Qm2xxAbf4Yo1XA32I26O26W5LQ1Gs3EV3yb7cx16g28Q04H1Cj2y316n0YT2Zk7rf35p8UY1Yl5yz0re17r",
    "6XC4u339e34s01U1dv1gt0vi1nK09r31v31c3RO3H72DK4KH4IDFnK4oM2Wr0Ad2gnCno2GH1QT25S1JdBaX0Dd2KK",
    "7YP5qk3oi2gkAGt0K11hD6b31e19xN0Xh4A6HIs3HA3df1yq0Ed2bkA5C0aC5iQ0Nm5au3At4SQ2QS1g10pB1Mk2QJ",
    "03f0Me8VZ0522Ta6V6A9R2Y17Y891963S5qY3ou72GAvn3Ee2Wq7Zx84g30C2ms5WV0wl1wLDhnItS0EU6Ae0Mj0Mu",
    "3Vm4Uy3aC5BZ7Fh1Om5gJ0Mk4MS1hH1mN25t0Af2Js1fU3Xn4Tm0xo1fQ0L536K3VJ3nS2ei1BA91s3x43MW3Z93hX",
    "0JJ04fDHw4mL4yN29mF1M05V1yU4KKAO83727pT4DCCPg6BBGOY0Nf4T71Ha2Oh6PB1Pt3uu31H3Li4423ox1f00PX",
    "0632kp3Sj2wT0by8YtDIn7tR30v5bz3dg0pM0095v86XS5mP6nq24K02Y03n18H2rq5yc1Gk6us0iV3zd2Ei5zE2Vn",
    "2uU0CS2qX1UB0XzDI63YV0iI7lr10i0UFEKs5ZVJlJ1Iv1FQ19nHVO0C532M0sE0nH8y51Et0jv1Bx6Gt0ZcGp45WE",
    "2Nk1pe49d20B6Hg67z0SM4qf4Nu03M3SB34H8wt7aE58q2Rl2Ym33s9A17Be9uU12e6OI2vz0yT2yS63o2PX1r73S6",
    "AzS2DP0fg2IS0hC4kp10L4GK3sE0U9Acp2Tg6l30Uk1mJ3cG0dI8Tw2PP6qa04b0se1Ol2z83mG6vP1mv64r4mD3Ms",
    "16F10C0w26kM3fa1dc09O0Z53NR44E4K04G30iH19k7g80qv1cl3YI39e4py5ea4mu2005J18kx5Pl2VE27E6yL8DK",
    "0tp2uo0WY0m55At9r90tE3QrCPP0ai9yg7kX6Fn0y51JJ1iQ5l3IB3DFqJxS2cD0o85EA8cvFoj76m8uHDWZ1PG6uS",
    "55l0Xz1CX5hk1Eb1xq2BE9Mr4KP0MH1VX6Gm0GP0XpA032Js58r2Vk1ur2J61NO1u10hw9KG7qa5Kv0Dy6kLBPZ4RV",
    "72x2F06B94Qm4ft3HE2Hy65e1GX1L00YpFCB4jw66nHhF3S01w40gQDGa11n7QH00hACL1CK5pp4qE0OV13lFRk0by",
    "2US1Vl2s80lr17T0NG3B81BT61X3PD0S01OI20O58g9CO2oKBMT4x51hb4DI30l0HI49Y4vc5ce84s2NR5tc0nH0nY",
    "D470oZ1Ct0V40C1Aqa9ep2Zm0iL6K24360W237M4Rx2Co3bJ4UnCe603d1w33qk3T83dn5qe6Ci1vR9JO2De2lN7UL",
    "1U0FDiEfk1896B62nh3Ix2MV0Ku2dA12k3OV0IR8DD1T226tUKl4zE2YZ3FV3Kg6Nx0Cs3AQ0PQ0J90wl1Sw11F4su",
    "6PP2nE9320eA2t1afj1Bq0vc3pe3R734L2S214x2vO1bQ8jA0RV8Kc6WD11P82P4Ka6NI0Xy2GT4SJ0bG1LaAmP8vR",
    "0XcCRL5gB4Rf2zF0nK4VSY9F2cK0CX29T1S83KW1Mu4s60WR35WJpJ2JE3sd1Z06s2Eeq9Ib4QJ2TD31d04v3Mt2ET",
    "0BF4j83p33ei0J42MV1UI1pj0Yi17r1G80LS3Rq4Of2R57UQ1vz6Wr7ah0XP8wd6U60QQ6eK2iZ1i51ds0aH2Iy2Pz",
    "XpO3Mz2S30S45aO4GN2qB5ZZ0xx3Ro2oj0Bs0QG0uS9Ps3YV2YO3QCATf1lu2Hl3Da0yL3Pn3sT4GoExp14D03v48q",
    "CeV0NZ1IeCoN0Ap0WP0Bl6dZ1Rz2zh41xDVe3RR47FAjG2U63vL2Mt1Sz1nZ39J2mS9rU2K07aT387APo0Cv07MIoE",
    "6z80pJ4tm0RE0Dn1zq1QB9mP1za59x6my2Zo3OI0qz0NA2BE0MM0Kk7Zi6f211x0HU2CE0Ed0eX7Gd7qV1lU28U2fZ",
    "9Vd5F308Q2or2En4ug52K0nt2Mv1Lw3Nt4Jk6Sm1DS0Gb58FFTl3p512x55S50F2BT2Hq4y7Dbt6Hc3fA1Wy0ZC0RY",
    "1XC3th1sR0Vp5ei6se6YE1ax1e3B7P0Vb8Zn04U4pP5m60qB5nv3an6K69Bu7BX6f837o3mV00h2W33HFCel0375JV",
    "38n77u4qjAb04XW0488gQ0050Xz1hP71N5H8BSN4166TeEAz8FzEHi0WR2ic1QT6jf1oS1pS1Qn0iv0ka04g0M91Gw",
    "2Xx56X0ie65j0wc4ML2gk1Wa0yL33820I2iYDyW14M5An10I2eV6qR5tE3xH0bP0ChFbW74Y5HW0LJ1IY0rN3T58em",
    "8mM1Ia0nm6qt6aF2Mp39B0Pg2Hm6460x87nt3k01Yg6AM1cb2yy8Gu3hL0Zh5M212EFKv2HM8Vl4HAD4m3fX0c056o",
    "69P7C636x6QV3oV8L8C3S0W44033E20cmB9q5xq2J28Ns07H32o3qZ4Jz5zu5RH39427f9Cb45VCbK0gc5ax1n46Y3",
    "1j26fb2EF08i4IB1El0hQ4cK5q3DGP07F5Lm0qpEMk0In0eR7rR3ub12B45W1K19tQIy81BX2650Bt2xC0LH7Og9xK",
    "0Tl1yi2sc5Nm3Us07sATI25Y1cG5b35gT0C32K610Y4rNFa30Oq2ii2jABK60ZW7us4Po7jn52VYZaJy31GP9sE3f3",
    "1O80E21I43UM9qyCC51fw4vt2YL0Vt5nk8AS6ay51809h4X66GW5o04jn1E00wU3ym1S96KQ2zB5B280c09AFpB06i",
    "8Cz5qy3xZ5nr0682s8Dvh7PV1142711e26n57Ue29Z4zt0b59RZ1bD2rC5D50yL9sg3Uj3Bn07P0PP2OL11Z07C77f",
    "38o12uBemEQv4nm2VK0gB3yi2aJ4Ul3wA3f2HT65tp5Ku07X3Wv1CZ4kE6kz9pN0Mu1WN2GM6i50fHL5n0ByAS92Cb",
    "6X84YA3JQ1EF0t397h0ai0rW4wl3e00WP1TI9fGDLg6xh22l7Uz34J7rWGEr5ro9ls0iu31H5RRGPs3kqLM64EQ1ui",
    "59H5vt2Kj4ZY1pN1N4ApU2lu6JD3fu5DP7cF19g04N0xo8H50063Vy6hC6990IO8De16Q3uR3dR1J8AIb1tC14q17l",
    "4Us25ZB7Z1iG1DB1xH3NP6cfIrQ46F2pY1TwE1M0dt3sI1jn8glFHK6yj9HdCA61FpIhF0Hf1bp2OO2s80DN0oF1qg",
    "3ap00B3ud5fa0SQ0Uj2tx1lbEFz0iM66b20HLHB2ji3oB2vh0MO6lu1As25jPpaGHI3mf1atBGE1Pn2kD1Gd6b47Aw",
    "0pA0Sx8SG7pCCotAb47Bz0QL2R9E051uC19O2pq7aA2620neBDJ3Z93Z718B2xG9Vv2H68VeDcN9PfBtk0YN2ig9Ro",
    "2tGAOG4K10C03dH5lf3qIBGN2Ht0Dm3BC2Lf1490Bc6eD2A93Tv01j0F04Ae4Cc0ZG2NI0Wq2If1au1BL5sW0s73oo",
    "2cz6HFAfn4QRJubEwP08l0ww27hCkn4vk3ZP2gV26V8BL21Y2SX8Ho1dc26S0WW1vxJqn5fV0tH6IrR9333X4nE1DH",
    "ABJ8648iH72y3QKKf50Un06T3J80pGAq21MH8e87wO3v6EfJ3A74g73SW4ng8XX23p2xI07Q1Vr2Nw3qP68y3ij4z2",
    "5QE2KVAVZ0FJ4A50Qi7SI1w31o94sP5Jm2eu8hz77t1cb3lB1Ui2t94a90e71m11qU1Lc5QE1LR61g3TI0TB7HB68Z",
    "50B4Ut41c0xu7113Qn3qE1wO0HY1JXBnP6ll22v7iL1Nd2GD2uO54S1iM68U1hJ5ZZ8sR2xP0ij0u5QBH6rZ0rA4QH",
    "26H87iAKc0xo0Z65S922q1SS6iv6fb3sH0bo1Ch1qc04t1se3k5I9r53HF6uEwh3PH2R92yt2HP4S30mk4iD1kg1jY",
    "1y30zWBMx1LH0JN0RD45V4H26OG2ce4QA02x2r802N8hwApK1XtNWU2gX1GH1Rn0Zb3qh0UZ1gE0Mn1mc5q60Ee8fU",
    "6sl3562Ji047A0E3Eo40ABEr1353Ow66v0dQ0mo63D0oC11P6QMDAx3bY1Sz8BU6lQ0Tu3rS1Hq13F0el5Mz02T0US",
    "2bt3fy0ND02GHWl4Ei6eG1gGBa9112D670Kg78523b1Ob1hV4T106O26qPZZ04V0Pi9WR5TB2XxCM91RG2551LN2gk",
    "0XM6sq0sW0ze0qf4vI2fI0L31L90uP22i0Pt1Ug1NX4pY7248060bFA3K3WL9zy20K4DC0yg5LR5qA9FH0AG5WU1E2",
    "0rb1501ao0ZP0t62jJ6Ev2hl6yj5tW0Gm8wV1ho07r0pk2Gj3gM16b9ws94x5bj1MtAw0Bbp0Eo0le4V194n14R1GN",
    "1By2ZJ1Ux0WdBrU1Tn0gL1sP0Sx1ya2919PE1sI0Wn2GC0mXD6Q1Tu1Bh4aX4I028C0ob4jbCyw0ok7P30zh2FF1nq",
    "1pu8dH6C14XA0hSDYP0iN0TB0PM6i90Ax04z36s7vP4B7Dy20oq1Lo0jk09f1qf0L10oJ6F62nNCx9EEC4Mg91g11N",
    "4il5J48Ef3nj55U00R0R02QMNc83oY0FS09t07F6zf3AP7uW4iT0dz0hg4tM1yI3Ll0668Vq0WX3Vj3fB4hl0bl4UZ",
    "1B92OU1680gi30n0ds0K92S965x4wKBwZ0Vi7BE0Cf4Wg0yh76A00N9NS3pP5wl8re4bGA0j3Yd6Vi0kc2Tg52s1ER",
    "1912Hn19CDLg5Pj2riB0J49B1q42CC3Zt2wy8ps3kl0o39Fa3f283v0m00UD53t1qO0F52kn5yY1EV41306j0lG2mP",
    "879C801Nx4zI3zV1hj2wY0T48tH3tu1Xx1lg11205QFjC4BP7icFuW2Vo25J22I8Kr7Ad1dm9CM2y4Jnp7U09BbVcC",
    "3q00Si1pk6ux3Ln0qQ0Ql69r2Ze1H41Sq8XR55M2XG2M41Tn5sP1alAn50Di0LK3i0Dx62U3CQ60TY5aB3EP2FAHXR",
    "2JK23C8NR9x63c85CZ9gZ0g90Ik7Oi0c92V1M2D1yh1ii0jA82Q6hK1aq2Dz5Fg3KF3274Ma1473HZ5Oh0k03SW1Ra",
    "0cy7za5DM76o0356fRAF7FPCTOc19t5iE5sqDff0WK3h243w0Vz0T46QP1xO2ju2gT3ecEck0XmAO917r0QO44IM37",
    "2Og0HMAks1zG24k1Tn21J6O9DWx63H7444tePbX0tW9PW4rO0AQ3uy0sz2A716g0ho34w4z61Fh0T11KsBrv0263UM",
    "0Dd2SgBOa0PH7vi0OY7Vl1xC2Qc39HEuY6dF0cC37O1Ry3wj9ND2E97HpDAC7VK3Xd1abEXh1vN3dq62Z3bf7W74Uv",
    "1ne5QN8bJ0w57gj5qn3jn65jAMj34U3jU0yF2Q21h22xa0mL5dd0Mh8XR3Wq1Bv0pc1q433zISK0hT2bz6bl9QKALy",
    "8LYAN88Jb09s42V0XL44k1Bv2LI2TkAKI5Hc1oxDgf2XE05C58J0PA39D4jt66g3uE1KI0KJA2r0U02Qr2Od6Pa51y",
    "67PHnd26y0YS0dp1kd1AN0Xi2xr0k52Vn28E1bPA5L4M66mY1ug1ej20S0uT8tMAWj2Jl4Ee4fSBkk1xCAhL1R70ca",
    "Kpd11U3ww57e5c84Ic2392W45uh6u92J657i4Qg0ki2fJ0a59k94Qn2ZxHmo7HC05J5jQ28h0gA7PU4S05Pi21441C",
    "7lj9g92Y53Vq69k0lc38v4EX0CQ1Gm0c89GU0wU1TM1Py0nA0gh6z49x15yy2Vp5h04Hg8rt2ws0N52tLCU417iCSC",
    "4T80Ne3gt5jo2sJ09U3lo1dH1No5dz1uD3dn1vx2591nq0wD0cGCQg0DpDVW63k2zb3tx1In9nR6BN8vL3310eF4Mn",
    "2BV1FM6Ph9UD8Pb2oP5l91AyF8i0kGN4J0il1Sr2iB0xo2gw2Pt08NB0G3A0Gkb08z2jF1gS06u6aN4Na0Sj2f50xY",
    "47B6ua0vD1OZ3I51gI1iK6c95MZ2pq1bc58l1A222q5pJ5iu4tG5DB6Kp0VD1DS0lLCqI3lo3gG06y1LE1Ct0yu3Bm",
    "17E7de0cT0ci0c12M80Gd19Q0b70h05se0NX0fZ3ZD5XY7xl4S98IE4ju4OO2T6Htf6OR7rF1wG5EE7p4ECX6sD7g4",
    "1EFEuv0nkHyF39xIfh7dHP5A0FcE9lMUw7mg0rG8Mk4pW2ad11i1JQ0bN4zk2EB10U7ONGL70sk2gk2UJ4sv2jz7cO",
    "3LT0Nb4mz4bD7gI1oEDor08I2b24jx9XE0XB4hd0Zw28L6d4245AWY1lXCpo1zW03R2NN5qq4Qa0CG5wi89I1kg55X",
    "0fG8u11lq0wf0mc1eO7yE0xI6Ac0kc0nq1rh7ia0jH0sCSgS3xU0ls1dt3iu1yn1YM2Bg9d528M1FV4DR0PF04I2Ch",
    "1GU25w7wv5Mb3UU00l156LeW6eiAU80tQ38Z6kR0cG6CE9YwB743zjCjP0PrAIt38h74w9VX2Dz3W93iN4Br6556VG",
    "12z59I0Ud5TS4o70hi2vX0st0Kg3J00p15iR0VW0Xh2GQ2177f72oQ1VT5s40TV1b033v1RV3RF3T212M7CE1GE2B6",
    "57v28Q20UCJK07s9Vz9HuCLR3gCE6z0M85kF10k0322V58Bh2IrAPS0x84ww3GS0Sh3bZ8xF7X32lr4NM7pc2Fp0nH",
    "1Ya5EF2SQ4qr0ga0Wh3CP22L6x10jP0Rq2zy2B374S79F2X54twCRW4VqA4h4hn5Cs3Yb0rZ8942CV0iW4mh269037",
    "0cY1dNDlK0IC33i4q73l82Ng0QB8yL1pQ0bD36S3064fo7VB2Jv7ZM0w70Yv2wp1eW1DcGNo3Wn2qW0ve3wS1Ep8Q0",
    "Eyq5QP21k2IT6iL4Tg6ck2D05v12wJ85g2HM2YCEhS25t5gn6yu2hM0aN4HZASY0gq3R94jqKtk2pX1Ls8Ex1jj7Yw",
    "2HP4wf1nW4yU3rM02Z2obBz638q257Ncg0tz9kV4Q604X1VW4Gi6EM7Lj72T6IH1lr6j3B9Q24E5QU08X1uv0bK2V2",
    "70N2OO3CR0oz0lU2Ex4ewBQF2c95Lu5ty6iC4NC8pR4lT" ]

end CrateSync.Text
